/-! Trees of TOML documents, and the rules for adding keys and tables to them. -/

namespace Countersign.Toml

/-- How a table came to be, which decides what may be added to it later. -/
inductive Origin where
  /-- Under a header of its own. -/
  | header
  /-- Under the header of a table inside it. -/
  | implied
  /-- Under a dotted key. -/
  | dotted
  deriving DecidableEq, Repr

/-- A value of a document. -/
inductive Value where
  /-- A text. -/
  | text (content : String)
  /-- An integer of sixty-four bits with sign. -/
  | integer (value : Int)
  /-- A number with a fraction, an exponent, or no finite value. -/
  | float
  /-- A truth value. -/
  | boolean (value : Bool)
  /-- A date, a time, or both. -/
  | moment
  /-- Values in brackets. -/
  | array (elements : List Value)
  /-- A table in braces, to which nothing can be added. -/
  | inline (entries : List (String × Value))
  /-- A table that is built up over several lines. -/
  | table (origin : Origin) (entries : List (String × Value))
  /-- Tables under headers of one name, in order. -/
  | tables (rows : List (List (String × Value)))

/-- The entries of a table, in order. -/
abbrev Entries := List (String × Value)

namespace Entries

/-- The entries with the value of a key put in place, or added behind the others. -/
def put (entries : Entries) (key : String) (value : Value) : Entries :=
  -- A key keeps its place.
  match entries with
  | [] => [(key, value)]
  | (name, old) :: rest =>
    if name = key then (name, value) :: rest else (name, old) :: put rest key value

/-- The entries with the table at the end of a path changed; missing tables are made on the way. -/
def alter (dotted : Bool) (change : Origin → Entries → Option Entries) :
    List String → Origin → Entries → Option Entries
  | [], origin, entries => change origin entries
  | key :: path, _, entries =>
    -- A dotted key may not pass through a table that has a header of its own.
    match entries.lookup key with
    | none => do
      let made := if dotted then .dotted else .implied
      let inner ← alter dotted change path made []
      return entries.put key (.table made inner)
    | some (.table origin inner) =>
      if dotted && origin == .header then none
      else do
        let changed ← alter dotted change path origin inner
        return entries.put key (.table origin changed)
    | some (.tables rows) => do
      let last ← rows.getLast?
      let changed ← alter dotted change path .header last
      return entries.put key (.tables (rows.dropLast ++ [changed]))
    | some _ => none

/-- The entries with a value under a key that may be dotted; no key is set twice. -/
def insert (path : List String) (value : Value) (origin : Origin) (entries : Entries) :
    Option Entries :=
  -- Only tables made by dotted keys take further dotted keys.
  match path.getLast? with
  | none => none
  | some key =>
    let outer := path.dropLast
    alter true (fun origin inner =>
      if (origin == .dotted) == outer.isEmpty then none
      else if (inner.lookup key).isSome then none
      else some (inner ++ [(key, value)])) outer origin entries

/-- The entries with a table that a header begins. -/
def openTable (path : List String) (entries : Entries) : Option Entries :=
  -- A table that another header implied may get its own header once.
  match path.getLast? with
  | none => none
  | some key =>
    alter false (fun _ inner =>
      match inner.lookup key with
      | none => some (inner ++ [(key, .table .header [])])
      | some (.table .implied old) => some (inner.put key (.table .header old))
      | some _ => none) path.dropLast .header entries

/-- The entries with one more table in a sequence of tables. -/
def openRow (path : List String) (entries : Entries) : Option Entries :=
  -- Only sequences that headers began can grow.
  match path.getLast? with
  | none => none
  | some key =>
    alter false (fun _ inner =>
      match inner.lookup key with
      | none => some (inner ++ [(key, .tables [[]])])
      | some (.tables rows) => some (inner.put key (.tables (rows ++ [[]])))
      | some _ => none) path.dropLast .header entries

/-- The entries with a value under a key in the table that the last header began. -/
def insertUnder (header path : List String) (value : Value) (entries : Entries) :
    Option Entries :=
  -- The header's table is looked up first, then the dotted part of the key.
  alter false (fun origin inner => insert path value origin inner) header .header entries

end Entries

end Countersign.Toml
