import Countersign.Rlp.Codec

/-! A position in a sequence of items, and reads that move it past one item each. -/

namespace Countersign.Rlp

/-- What is left of a sequence of items, which may be the elements of a list. -/
structure Cursor where
  /-- The octets that are still unread. -/
  data : Bytes
  /-- Whether the items are the elements of a list. -/
  inList : Bool
  deriving DecidableEq, Repr

namespace Cursor

/-- A cursor before the first item of an input. -/
def ofBytes (data : Bytes) : Cursor := ⟨data, false⟩

/-- A cursor before the first element of a list. -/
def ofPayload (payload : Bytes) : Cursor := ⟨payload, true⟩

/-- Whether every item has been read. -/
def isEmpty (cursor : Cursor) : Bool := cursor.data.isEmpty

/-- Succeeds when every item has been read. -/
def finish (cursor : Cursor) : Except DecodeError Unit :=
  -- What is left over has another name inside a list than behind a whole input.
  if cursor.isEmpty then .ok ()
  else if cursor.inList then .error .tooManyElements
  else .error .trailingBytes

/-- The next item and the cursor behind it. -/
def next (cursor : Cursor) : Except DecodeError (Item × Cursor) := do
  -- A missing item has another name inside a list than at the end of a whole input.
  match ← Item.split? cursor.data with
  | some (item, rest) => return (item, { cursor with data := rest })
  | none => throw (if cursor.inList then .tooFewElements else .unexpectedEnd)

/-- The outcome of a read at a cursor, and where the cursor stands after it. -/
def read {α : Type} (cursor : Cursor) (codec : Codec α) : Except DecodeError α × Cursor :=
  -- A bad header leaves the cursor in place; a bad item has been passed.
  match cursor.next with
  | .error error => (.error error, cursor)
  | .ok (item, behind) => (codec.ofItem item, behind)

/-- A cursor over the elements of the next item, which must be a list, and the cursor behind it. -/
def enter (cursor : Cursor) : Except DecodeError Cursor × Cursor :=
  -- Entering is reading the payload and standing before its first element.
  match cursor.next with
  | .error error => (.error error, cursor)
  | .ok (item, behind) => (item.payload.map ofPayload, behind)

end Cursor

end Countersign.Rlp
