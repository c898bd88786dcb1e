import Countersign.Bytes
import Countersign.Hex
import Countersign.Json.Magnitude
import Countersign.Json.Printing
import Countersign.Json.Reading
import Countersign.Text.Blank

/-! Forms between the values of a type and JSON values, and combinators that build them. -/

namespace Countersign.Json

/-- What stood where a decimal integer was expected. -/
inductive Found where
  /-- A text, or a number that is no integer. -/
  | text (content : String)
  /-- The word for nothing. -/
  | null
  /-- A truth word. -/
  | bool (value : Bool)
  /-- An array. -/
  | sequence
  /-- An object. -/
  | map
  deriving DecidableEq, Repr

/-- Why a well-formed text does not have the expected shape. -/
inductive Mismatch where
  /-- A record lacks a field. -/
  | missingField (name : String)
  /-- A record has a field twice. -/
  | duplicateField (name : String)
  /-- A name is none of those that stand for alternatives. -/
  | unknownVariant (name : String) (known : List String)
  /-- A decimal integer was expected. -/
  | notDecimal (found : Found)
  /-- The content of a text was refused, in the words of the type that refused it. -/
  | refused (wording : String)
  /-- Another kind of value, number of elements or range of numbers was expected. -/
  | otherShape
  deriving DecidableEq, Repr

/-- Why no value could be read. -/
inductive Fault where
  /-- The text is not well formed. -/
  | flaw (flaw : Flaw)
  /-- The text is well formed up to a value of the wrong shape. -/
  | mismatch (cause : Mismatch)
  deriving DecidableEq, Repr

/-- What was found, in words. -/
def Found.describe : Found → String
  | .text content => "invalid value: string " ++ Text.quoted content
  | .null => "invalid type: null"
  | .bool value => "invalid type: boolean `" ++ toString value ++ "`"
  | .sequence => "invalid type: sequence"
  | .map => "invalid type: map"

/-- A name between marks. -/
def marked (name : String) : String := "`" ++ name ++ "`"

/-- The alternatives in words. -/
def describeKnown (known : List String) : String :=
  -- Two are joined by a word, more are listed.
  match known with
  | [first, second] => "expected " ++ marked first ++ " or " ++ marked second
  | _ => "expected one of " ++ String.intercalate ", " (known.map marked)

/-- The wording of a mismatch, where it has one of its own. -/
def Mismatch.message? : Mismatch → Option String
  | .missingField name => some ("missing field " ++ marked name)
  | .duplicateField name => some ("duplicate field " ++ marked name)
  | .unknownVariant name known =>
    some ("unknown variant " ++ marked name ++ ", " ++ describeKnown known)
  | .notDecimal found =>
    some (found.describe ++ ", expected a decimal integer string or a JSON integer")
  | .refused wording => some wording
  | .otherShape => none

/-- How the values of a type stand as JSON values. -/
structure Form (α : Type) where
  /-- The JSON value of a value. -/
  write : α → Value
  /-- The value that a JSON value stands for. -/
  read : Value → Except Fault α

/-- The fault of a value that does not have the expected shape: a flaw in it comes first. -/
def Value.unexpected {α : Type} : Value → Except Fault α
  | .flawed _ strict _ => .error (.flaw strict)
  | .absent flaw => .error (.flaw flaw)
  | .text none => .error (.flaw .malformed)
  | _ => .error (.mismatch .otherShape)

mutual

/-- Passes over a value of any shape, which must be well formed. -/
def Value.skip : Value → Except Fault Unit
  | .flawed _ _ lenient => .error (.flaw lenient)
  | .absent flaw => .error (.flaw flaw)
  | .array elements ending => do
    skipElements elements
    skipEnding ending
  | .object members ending => do
    skipMembers members
    skipEnding ending
  | _ => .ok ()

/-- Passes over elements in order. -/
def skipElements : List Value → Except Fault Unit
  | [] => .ok ()
  | value :: rest => do
    value.skip
    skipElements rest

/-- Passes over members in order; a name must be a text of some kind. -/
def skipMembers : List (Value × Value) → Except Fault Unit
  | [] => .ok ()
  | (name, value) :: rest => do
    match name with
    | .text _ => pure ()
    | .flawed true _ lenient => throw (.flaw lenient)
    | .absent flaw => throw (.flaw flaw)
    | _ => throw (.flaw .malformed)
    value.skip
    skipMembers rest

/-- Passes over the end of a bracketed value. -/
def skipEnding : Option Flaw → Except Fault Unit
  | none => .ok ()
  | some flaw => .error (.flaw flaw)

end

/-- The name of a member of a record. -/
def Value.memberName : Value → Except Fault String
  | .text (some name) => .ok name
  | .flawed true strict _ => .error (.flaw strict)
  | .absent flaw => .error (.flaw flaw)
  | _ => .error (.flaw .malformed)

/-- Nothing may follow the last element or member. -/
def endOf {β : Type} (left : List β) (ending : Option Flaw) : Except Fault Unit :=
  -- A comma with anything behind it is one too many.
  if left.isEmpty then skipEnding ending else .error (.flaw .malformed)

namespace Form

variable {α β : Type}

/-- The value of a text, if it has the shape of the form and nothing follows it. -/
def parse (form : Form α) (text : String) : Except Fault α := do
  -- What follows is judged last.
  let (value, followed) := readDocument text
  let result ← form.read value
  if followed then throw (.flaw .malformed)
  return result

/-- The shortest text of a value. -/
def render (form : Form α) (value : α) : String := (form.write value).render

/-- A form whose values are those of another, seen through a pair of inverse maps. -/
def iso (form : Form α) (pack : α → β) (unpack : β → α) : Form β where
  write value := form.write (unpack value)
  read value := (form.read value).map pack

/-- Texts. -/
def text : Form String where
  write value := .ofString value
  read
    | .text (some value) => .ok value
    | other => other.unexpected

/-- Texts that another type may refuse, with the wording of the refusal. -/
def refine (display : α → String) (parse : String → Except String α) : Form α where
  write value := .ofString (display value)
  read value := do
    let content ← text.read value
    match parse content with
    | .ok result => return result
    | .error wording => throw (.mismatch (.refused wording))

/-- Natural numbers below a bound, written without point and exponent. -/
def natural (bound : Nat) : Form Nat where
  write value := .ofNat value
  read
    | .number decimal =>
      -- A number too large for any double is no number at all.
      if isTooLarge decimal then .error (.flaw .malformed)
      else if decimal.isInteger && !decimal.negative
          && decide (Text.digitsValue decimal.whole < bound) then
        .ok (Text.digitsValue decimal.whole)
      else .error (.mismatch .otherShape)
    | other => other.unexpected

/-- Integers of sixty-four bits. -/
def word64 : Form UInt64 := (natural (Nat.pow 2 64)).iso UInt64.ofNat UInt64.toNat

/-- Integers of thirty-two bits. -/
def word32 : Form UInt32 := (natural (Nat.pow 2 32)).iso UInt32.ofNat UInt32.toNat

/-- Octets. -/
def octet : Form UInt8 := (natural (Nat.pow 2 8)).iso UInt8.ofNat UInt8.toNat

/-- Octet sequences, as hexadecimal digits behind `0x`, which may be missing when read. -/
def hexBytes : Form Bytes :=
  -- A fault is worded by the reader of digits.
  refine Hex.encodeMarked fun text => (Hex.decodeMarked text).mapError Hex.Fault.message

/-- The values of elements in order. -/
def readElements (form : Form α) : List Value → Except Fault (List α)
  | [] => .ok []
  | value :: rest => do
    let first ← form.read value
    let others ← form.readElements rest
    return first :: others

/-- Arrays of values of one type. -/
def list (form : Form α) : Form (List α) where
  write values := .ofList (values.map form.write)
  read
    | .array elements ending => do
      -- The end is judged after the elements.
      let values ← form.readElements elements
      skipEnding ending
      return values
    | other => other.unexpected

/-- Octet sequences of one fixed length, as arrays of numbers. -/
def fixedBytes (size : Nat) : Form (FixedBytes size) where
  write value := .ofList (value.toBytes.map octet.write)
  read
    | .array elements ending => do
      -- Elements beyond the length are not read.
      let bytes ← octet.readElements (elements.take size)
      if elements.length < size then skipEnding ending
      match FixedBytes.ofBytes? bytes with
      | none => throw (.mismatch .otherShape)
      | some value =>
        endOf (elements.drop size) ending
        return value
    | other => other.unexpected

end Form

/-- The integer that a sequence of digits with an optional minus sign stands for. -/
def decimal? (chars : List Char) : Option Int :=
  -- At least one digit and nothing but digits behind the sign.
  let (negative, digits) :=
    match chars with
    | '-' :: rest => (true, rest)
    | _ => (false, chars)
  (Text.natural? digits).map fun magnitude => if negative then -Int.ofNat magnitude else magnitude

/-- The integer of digits with an optional minus sign, which are shown if there is none. -/
def readDecimal (chars : List Char) : Except Fault Int :=
  -- The digits are shown as they stand.
  match decimal? chars with
  | some value => .ok value
  | none => .error (.mismatch (.notDecimal (.text (String.ofList chars))))

/-- The name under which a number stands that is wrapped in an object of its own. -/
def wrappedNumber : String := "$serde_json::private::Number"

/-- Integers of any size, written as texts of their digits and read from texts or literals. -/
def Form.integer : Form Int where
  write value := .ofString (toString value)
  read
    | .text (some content) => readDecimal (Text.trim content.toList)
    | .number decimal => readDecimal decimal.chars
    | .null => .error (.mismatch (.notDecimal .null))
    | .bool value => .error (.mismatch (.notDecimal (.bool value)))
    | .array _ _ => .error (.mismatch (.notDecimal .sequence))
    | .object members ending => do
      -- Only a wrapped number is read, and it must be the only member.
      match members with
      | [] =>
        skipEnding ending
        throw (.mismatch (.notDecimal .map))
      | (name, value) :: rest =>
        if (← name.memberName) = wrappedNumber then
          let digits ← Form.text.read value
          let result ← readDecimal digits.toList
          endOf rest ending
          return result
        else throw (.mismatch (.notDecimal .map))
    | other => other.unexpected

/-- The fields of a record, where `δ` holds those met so far. -/
structure Fields (δ α : Type) where
  /-- No field has been met. -/
  blank : δ
  /-- A member is met: nothing if the record has no field of that name. -/
  meet : String → Value → δ → Option (Except Fault δ)
  /-- All members have been met. -/
  close : δ → Except Fault α
  /-- The fields as the first elements of an array that ends in the given way. -/
  row : Option Flaw → List Value → Except Fault (α × List Value)
  /-- The members of a value, in order. -/
  members : α → List (String × Value)

namespace Fields

variable {α β γ δ : Type}

/-- No fields at all. -/
def nil : Fields Unit Unit where
  blank := ()
  meet _ _ _ := none
  close _ := .ok ()
  row _ elements := .ok ((), elements)
  members _ := []

/-- The value of a field that is not there, if the record can do without it. -/
def absent (name : String) (fallback : Option α) : Except Fault α :=
  -- A field without a fallback must be there.
  match fallback with
  | some value => .ok value
  | none => .error (.mismatch (.missingField name))

/-- One field in front of others, with the values it has when an object or an array lacks it. -/
def consWith (name : String) (form : Form α) (fallback short : Option α) (rest : Fields δ β) :
    Fields (Option α × δ) (α × β) where
  blank := (none, rest.blank)
  meet key value draft :=
    -- A field met before is refused before its value is looked at.
    if key = name then
      some (match draft.1 with
        | some _ => .error (.mismatch (.duplicateField name))
        | none => (form.read value).map fun first => (some first, draft.2))
    else (rest.meet key value draft.2).map fun outcome =>
      outcome.map fun others => (draft.1, others)
  close draft := do
    -- The first missing field in order is the one reported.
    let first ← absent name (draft.1 <|> fallback)
    let others ← rest.close draft.2
    return (first, others)
  row ending
    | [] => do
      -- An array that breaks off is not one that is short.
      skipEnding ending
      match short with
      | none => throw (.mismatch .otherShape)
      | some first =>
        let (others, left) ← rest.row ending []
        return ((first, others), left)
    | value :: elements => do
      let first ← form.read value
      let (others, left) ← rest.row ending elements
      return ((first, others), left)
  members value := (name, form.write value.1) :: rest.members value.2

/-- A field that must be there. -/
def cons (name : String) (form : Form α) (rest : Fields δ β) : Fields (Option α × δ) (α × β) :=
  -- Neither an object nor an array may lack it.
  consWith name form none none rest

/-- A field that an object may lack, while an array may not. -/
def optional (name : String) (form : Form α) (fallback : α) (rest : Fields δ β) :
    Fields (Option α × δ) (α × β) :=
  -- An array has no names that could tell which field is missing.
  consWith name form (some fallback) none rest

/-- A field that may be missing from an object and from the end of an array. -/
def defaulted (name : String) (form : Form α) (fallback : α) (rest : Fields δ β) :
    Fields (Option α × δ) (α × β) :=
  -- The same value stands in for it in both.
  consWith name form (some fallback) (some fallback) rest

/-- What a record has met after some members, in order. -/
def meetAll (fields : Fields δ α) (draft : δ) : List (Value × Value) → Except Fault δ
  | [] => .ok draft
  | (name, value) :: rest => do
    -- Members of other names are passed over.
    match fields.meet (← name.memberName) value draft with
    | some outcome => fields.meetAll (← outcome) rest
    | none =>
      value.skip
      fields.meetAll draft rest

/-- A record is an object of its fields in any order, or an array of them in their own. -/
def record (fields : Fields δ α) (pack : α → β) (unpack : β → α) : Form β where
  write value := .ofMembers (fields.members (unpack value))
  read
    | .object members ending => do
      let draft ← fields.meetAll fields.blank members
      skipEnding ending
      return pack (← fields.close draft)
    | .array elements ending => do
      let (value, left) ← fields.row ending elements
      endOf left ending
      return pack value
    | other => other.unexpected

end Fields

/-- The name of an alternative and the value that stands with it, if it is not a bare name. -/
def Value.alternative : Value → Except Fault (String × Option (Value × Except Fault Unit))
  | .text (some name) => .ok (name, none)
  | .text none => .error (.flaw .malformed)
  | .object [] ending => .error (.flaw (ending.getD .malformed))
  | .object ((name, value) :: rest) ending =>
    -- The name is one of a member like any other; what follows the value is judged later.
    name.memberName.map fun name => (name, some (value, endOf rest ending))
  | .flawed true strict _ => .error (.flaw strict)
  | .absent flaw => .error (.flaw flaw)
  | _ => .error (.flaw .malformed)

/-- Alternatives without content: a bare name, or a name with nothing. -/
def Form.choice {α : Type} (names : List (String × α)) (name : α → String) : Form α where
  write value := .ofString (name value)
  read value := do
    let (found, content) ← value.alternative
    match names.lookup found with
    | none => throw (.mismatch (.unknownVariant found (names.map Prod.fst)))
    | some result =>
      match content with
      | none => return result
      | some (.null, ending) =>
        ending
        return result
      | some (other, _) => other.unexpected

/-- Alternatives with content: an object whose single member is the alternative's. -/
def Form.tagged {α : Type} (name : α → String) (content : α → Value)
    (readers : List (String × (Value → Except Fault α))) : Form α where
  write value := .ofMembers [(name value, content value)]
  read value := do
    let (found, content) ← value.alternative
    match readers.lookup found with
    | none => throw (.mismatch (.unknownVariant found (readers.map Prod.fst)))
    | some reader =>
      match content with
      | none => throw (.mismatch .otherShape)
      | some (inner, ending) =>
        let result ← reader inner
        ending
        return result

end Countersign.Json
