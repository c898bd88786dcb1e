import Countersign.Rlp.Cursor
import Countersign.Rlp.Words

/-! Reads that move a cursor along, one step after another. The elements of a list are read at a
cursor of their own. -/

namespace Countersign.Rlp

/-- A read that moves a cursor along. There is no outcome where a computation leaves its range, or
where the read never ends. -/
abbrev Reader := ExceptT DecodeError (StateT Cursor Option)

namespace Reader

variable {α : Type}

/-- The outcome of a read at a cursor, and where it leaves the cursor. -/
def runAt (reader : Reader α) (cursor : Cursor) : Option (Except DecodeError α × Cursor) :=
  StateT.run (ExceptT.run reader) cursor

/-- The next item, of whatever kind. -/
def item : Reader Item := do
  let cursor ← get
  match cursor.data.head? with
  | none => throw (if cursor.inList then .tooFewElements else .unexpectedEnd)
  | some lead =>
    -- The cursor moves only when the header has proved to be a good one.
    let (item, consumed) ← (← (Words.first cursor.data lead).run)
    set { cursor with data := ← Words.behind consumed.toNat cursor.data }
    return item

/-- A string of octets. -/
def bytes : Reader Bytes := do
  match ← item with
  | .octets content => return content
  | .list _ => throw .expectedString

/-- A list, of which a cursor before its first element is given. -/
def enter : Reader Cursor := do
  match ← item with
  | .list payload => return .ofPayload payload
  | .octets _ => throw .expectedList

/-- An integer of sixty-four bits. -/
def word64 : Reader UInt64 := do
  -- The leading zero is refused before the length is looked at.
  let content ← bytes
  if content.head? = some 0 then throw .nonCanonicalInteger
  if 8 < content.length then throw .integerOverflow
  return Words.ofBytes content

/-- An integer of thirty-two bits. -/
def word32 : Reader UInt32 := do
  -- What exceeds sixty-four bits has been refused before.
  let value ← word64
  if Nat.pow 2 32 ≤ value.toNat then throw .integerOverflow
  return UInt32.ofNat value.toNat

/-- An integer of any size. -/
def integer : Reader Int := do
  let content ← bytes
  if content.head? = some 0 then throw .nonCanonicalInteger
  return Int.ofNat (Bytes.toNat content)

/-- A text. -/
def text : Reader String := do
  -- Only well-formed UTF-8 is a text.
  match Bytes.toText? (← bytes) with
  | some value => return value
  | none => throw .invalidText

/-- Nothing at all, where every item has been read. -/
def finish : Reader Unit := do (← get).finish

/-- A read at a cursor of its own, which leaves this one where it is. -/
def within (inner : Cursor) (reader : Reader α) : Reader α := do
  let (outcome, _) ← reader.runAt inner
  outcome

/-- A record: a list of its fields with nothing behind them. -/
def record (fields : Reader α) : Reader α := do
  within (← enter) do
    let value ← fields
    finish
    return value

/-- What elements come of a cursor as long as there are any, and where they leave it. -/
def elementsAt (element : Reader α) (cursor : Cursor) :
    Option (Except DecodeError (List α) × Cursor) :=
  if cursor.isEmpty then some (.ok [], cursor)
  else
    match element.runAt cursor with
    | none => none
    | some (.error error, behind) => some (.error error, behind)
    | some (.ok value, behind) =>
      -- An element that takes nothing off the data would be read again for ever.
      if behind.data.length < cursor.data.length then
        (elementsAt element behind).map fun rest => (rest.1.map (value :: ·), rest.2)
      else none
termination_by cursor.data.length

/-- Elements of one type as long as there are any. -/
def elements (element : Reader α) : Reader (List α) := ExceptT.mk (elementsAt element)

/-- A list of elements of one type. -/
def list (element : Reader α) : Reader (List α) := do
  within (← enter) (elements element)

end Reader

end Countersign.Rlp
