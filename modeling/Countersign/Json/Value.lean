import Countersign.Text.Decimal

/-! Trees of JSON text that record where the text breaks off, so that the first problem decides. -/

namespace Countersign.Json

/-- In which of two ways a text fails to be well formed. -/
inductive Flaw where
  /-- Something stands where it cannot stand. -/
  | malformed
  /-- The text ends too early. -/
  | truncated
  deriving DecidableEq, Repr

/-- A JSON value as it stands in a text that may break off anywhere. -/
inductive Value where
  /-- The word for nothing. -/
  | null
  /-- One of the two truth words. -/
  | bool (value : Bool)
  /-- A number. -/
  | number (decimal : Text.Decimal)
  /-- A delimited text; nothing when an escape in it stands for no character. -/
  | text (value : Option String)
  /-- A number, word or text that breaks off: how it reads, and how it is passed over. -/
  | flawed (quoted : Bool) (strict lenient : Flaw)
  /-- No beginning of a value at all. -/
  | absent (flaw : Flaw)
  /-- Elements in order, and the flaw that stands in place of the closing bracket, if any. -/
  | array (elements : List Value) (ending : Option Flaw)
  /-- Members in order, and the flaw that stands in place of the closing brace, if any. -/
  | object (members : List (Value × Value)) (ending : Option Flaw)

namespace Value

/-- A text that is one. -/
def ofString (value : String) : Value := .text (some value)

/-- The number of a natural number. -/
def ofNat (value : Nat) : Value := .number ⟨false, Nat.toDigits 10 value, none, none⟩

/-- A complete array. -/
def ofList (elements : List Value) : Value := .array elements none

/-- A complete object with the given names. -/
def ofMembers (members : List (String × Value)) : Value :=
  -- Names are texts like any other.
  .object (members.map fun (name, value) => (ofString name, value)) none

instance : Inhabited Value := ⟨null⟩

end Value

end Countersign.Json
