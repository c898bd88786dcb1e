import Countersign.Rlp.Item

/-! Codecs between values and items, and the combinators that build the codec of a record. -/

namespace Countersign.Rlp

/-- Why a value has no written form. -/
inductive EncodeError where
  /-- A negative integer has no octets. -/
  | negativeInteger (value : Int)
  deriving DecidableEq, Repr

/-- The wording of an encoding error. -/
def EncodeError.message : EncodeError → String
  | .negativeInteger value => "negative integer cannot be encoded: " ++ toString value

/-- How the values of a type stand as single items. -/
structure Codec (α : Type) where
  /-- The item of a value, if it has one. -/
  toItem : α → Except EncodeError Item
  /-- The value of an item, if it is the item of one. -/
  ofItem : Item → Except DecodeError α

/-- How the fields of a record stand behind one another in the payload of its list. -/
structure Fields (α : Type) where
  /-- The written forms of the fields, in order. -/
  write : α → Except EncodeError Bytes
  /-- The fields at the front of a payload, and what follows them. -/
  read : Bytes → Except DecodeError (α × Bytes)

/-- The content of an item that must be a string. -/
def Item.content : Item → Except DecodeError Bytes
  | .octets content => .ok content
  | .list _ => .error .expectedString

/-- The payload of an item that must be a list. -/
def Item.payload : Item → Except DecodeError Bytes
  | .list payload => .ok payload
  | .octets _ => .error .expectedList

namespace Codec

variable {α β : Type}

/-- The written form of a value. -/
def write (codec : Codec α) (value : α) : Except EncodeError Bytes :=
  -- A value is written as its item is.
  (codec.toItem value).map Item.write

/-- Octet strings, as they are. -/
def bytes : Codec Bytes where
  toItem content := .ok (.octets content)
  ofItem item := item.content

/-- A codec whose values are those of another, seen through a pair of inverse maps. -/
def iso (codec : Codec α) (pack : α → β) (unpack : β → α) : Codec β where
  toItem value := codec.toItem (unpack value)
  ofItem item := (codec.ofItem item).map pack

/-- Texts, as their UTF-8 octets. -/
def text : Codec String where
  toItem value := .ok (.octets (Bytes.ofText value))
  ofItem item := do
    -- Only well-formed UTF-8 is a text.
    let content ← item.content
    match Bytes.toText? content with
    | some value => return value
    | none => throw .invalidText

/-- The number of a string of octets without a leading zero. -/
def magnitude (content : Bytes) : Except DecodeError Nat :=
  -- The empty string is zero.
  if content.head? = some 0 then .error .nonCanonicalInteger else .ok (Bytes.toNat content)

/-- Integers of any size; negative ones have no item. -/
def integer : Codec Int where
  toItem value :=
    -- The sign has no place in the octets.
    if value < 0 then .error (.negativeInteger value)
    else .ok (.octets (Bytes.ofNat value.toNat))
  ofItem item := do
    let content ← item.content
    return Int.ofNat (← magnitude content)

/-- Integers of sixty-four bits. -/
def word64 : Codec UInt64 where
  toItem value := .ok (.octets (Bytes.ofNat value.toNat))
  ofItem item := do
    -- The leading zero is refused before the length is looked at.
    let content ← item.content
    let value ← magnitude content
    if 8 < content.length then throw .integerOverflow
    return UInt64.ofNat value

/-- Integers of thirty-two bits. -/
def word32 : Codec UInt32 where
  toItem value := .ok (.octets (Bytes.ofNat value.toNat))
  ofItem item := do
    -- What exceeds sixty-four bits is refused as what exceeds thirty-two.
    let value ← word64.ofItem item
    if Nat.pow 2 32 ≤ value.toNat then throw .integerOverflow
    return UInt32.ofNat value.toNat

/-- The written forms of values, one behind the other; the first that has none decides. -/
def writeAll (codec : Codec α) : List α → Except EncodeError Bytes
  | [] => .ok []
  | value :: rest => do
    let front ← codec.write value
    let back ← codec.writeAll rest
    return front ++ back

/-- The values whose written forms make up a whole payload. -/
def readAll (codec : Codec α) (payload : Bytes) : Except DecodeError (List α) :=
  -- Each item is shorter than what it is read from, so the payload runs out.
  match _found : Item.split? payload with
  | .error error => .error error
  | .ok none => .ok []
  | .ok (some (item, rest)) => do
    let value ← codec.ofItem item
    let values ← codec.readAll rest
    return value :: values
termination_by payload.length
decreasing_by exact Item.length_of_split ‹_›

/-- Lists of values of one type. -/
def list (codec : Codec α) : Codec (List α) where
  toItem values := (codec.writeAll values).map Item.list
  ofItem item := do
    let payload ← item.payload
    codec.readAll payload

end Codec

namespace Fields

variable {α β : Type}

/-- No fields at all. -/
def nil : Fields Unit where
  write _ := .ok []
  read payload := .ok ((), payload)

/-- One field in front of others. -/
def cons (codec : Codec α) (rest : Fields β) : Fields (α × β) where
  write value := do
    let front ← codec.write value.1
    let back ← rest.write value.2
    return front ++ back
  read payload := do
    -- A payload that has run out lacks an element.
    match ← Item.split? payload with
    | none => throw .tooFewElements
    | some (item, behind) =>
      let first ← codec.ofItem item
      let (others, left) ← rest.read behind
      return ((first, others), left)

/-- The list of a record's fields, with nothing behind them. -/
def record (fields : Fields α) (pack : α → β) (unpack : β → α) : Codec β where
  toItem value := (fields.write (unpack value)).map Item.list
  ofItem item := do
    let payload ← item.payload
    let (value, left) ← fields.read payload
    if !left.isEmpty then throw .tooManyElements
    return pack value

end Fields

end Countersign.Rlp
