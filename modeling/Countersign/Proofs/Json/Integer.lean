import Countersign.Proofs.Json.Form
import Countersign.Proofs.Text.Blank

/-! Integers of any size: which values are read as one, and that none of the ways to write an
integer is read as another. -/

namespace Countersign.Json

open Text (Decimal IsDigits IsTrimmed)

/-- Digits with a minus sign that may be missing, and the integer that they stand for. -/
inductive IsDecimal : List Char → Int → Prop
  /-- The digits alone. -/
  | plain {digits : List Char} (written : IsDigits digits) :
    IsDecimal digits (Text.digitsValue digits)
  /-- The digits behind a minus sign. -/
  | minus {digits : List Char} (written : IsDigits digits) :
    IsDecimal ('-' :: digits) (-Text.digitsValue digits)

variable {chars digits : List Char} {value : Int} {decimal : Decimal}

/-- Without a sign in front there are digits only. -/
theorem decimal?_of_unsigned (unsigned : ∀ rest, chars ≠ '-' :: rest) :
    decimal? chars = (Text.natural? chars).map Int.ofNat := by
  -- The branch for a sign is left out.
  rw [decimal?]
  · rfl
  · exact unsigned

/-- Nothing but digits behind a sign that may be missing has a value. -/
theorem decimal?_eq_some_iff : decimal? chars = some value ↔ IsDecimal chars value := by
  constructor
  · intro read
    cases chars with
    | nil => cases read
    | cons first digits =>
      -- A minus sign is taken off first, and any other character belongs to the digits.
      by_cases sign : first = '-'
      · subst sign
        obtain ⟨magnitude, digitsRead, rfl⟩ := Option.map_eq_some_iff.mp read
        obtain ⟨written, rfl⟩ := Text.natural?_eq_some_iff.mp digitsRead
        exact .minus written
      · rw [decimal?_of_unsigned fun rest same => sign (List.cons.inj same).1] at read
        obtain ⟨magnitude, digitsRead, rfl⟩ := Option.map_eq_some_iff.mp read
        obtain ⟨written, rfl⟩ := Text.natural?_eq_some_iff.mp digitsRead
        exact .plain written
  · intro spelled
    cases spelled with
    | plain written =>
      -- Digits do not begin with a sign.
      rw [decimal?_of_unsigned (written.ne_cons rfl),
        Text.natural?_eq_some_iff.mpr ⟨written, rfl⟩]
      rfl
    | @minus digits written =>
      simp [decimal?, Text.natural?_eq_some_iff.mpr ⟨written, rfl⟩]

/-- Characters are read as an integer exactly if they spell it. -/
theorem readDecimal_eq_ok_iff : readDecimal chars = .ok value ↔ IsDecimal chars value := by
  -- What has no value is the only fault.
  rw [← decimal?_eq_some_iff, readDecimal]
  cases decimal? chars <;> simp

/-- What is no integer is shown as it stands. -/
theorem readDecimal_of_not (none : ∀ value, ¬ IsDecimal chars value) :
    readDecimal chars = .error (.mismatch (.notDecimal (.text (String.ofList chars)))) := by
  rw [readDecimal]
  -- A value that is found is spelled.
  cases read : decimal? chars with
  | none => rfl
  | some value => exact absurd (decimal?_eq_some_iff.mp read) (none value)

/-- An integer has no blanks at its ends. -/
theorem IsDecimal.isTrimmed (spelled : IsDecimal chars value) : IsTrimmed chars := by
  -- There are no blanks in it at all.
  apply Text.isTrimmed_of_solid
  intro char member
  cases spelled with
  | plain written => exact Text.isBlank_of_isDigit char (written.all char member)
  | minus written =>
    rcases List.mem_cons.mp member with rfl | digit
    · rfl
    · exact Text.isBlank_of_isDigit char (written.all char digit)

/-- An integer in digits, behind zeros that do not count. -/
def padded (zeros : Nat) (value : Int) : List Char :=
  -- The sign stands in front of the zeros.
  (if value < 0 then ['-'] else []) ++ (List.replicate zeros '0' ++ Nat.toDigits 10 value.natAbs)

/-- Zeros in front of an integer change nothing. -/
theorem isDecimal_padded (zeros : Nat) (value : Int) : IsDecimal (padded zeros value) value := by
  have written := (Text.isDigits_toDigits value.natAbs).padded zeros
  -- They count for nothing in the value of the digits.
  have magnitude : Text.digitsValue (List.replicate zeros '0' ++ Nat.toDigits 10 value.natAbs) =
      value.natAbs := by
    rw [Text.digitsValue_padded, Text.digitsValue_toDigits]
  rw [padded]
  -- A sign stands in front of the zeros as well.
  split
  · rename_i negative
    have spelled := IsDecimal.minus written
    rwa [magnitude, show (-(value.natAbs : Int)) = value by omega] at spelled
  · rename_i positive
    have spelled := IsDecimal.plain written
    rwa [magnitude, show (value.natAbs : Int) = value by omega] at spelled

/-- An integer is written as its digits, with none in front that do not count. -/
theorem toList_toString (value : Int) : (toString value).toList = padded 0 value := by
  -- On the sign; without one there is no difference between an integer and its digits.
  cases value with
  | ofNat value =>
    have shown : (toString (Int.ofNat value)).toList = Nat.toDigits 10 value := Nat.toList_repr
    have positive : ¬ Int.ofNat value < 0 := Int.not_lt.mpr (Int.natCast_nonneg value)
    rw [shown, padded, if_neg positive]
    rfl
  | negSucc value =>
    have shown : toString (Int.negSucc value) = "-" ++ Nat.repr (value + 1) := rfl
    rw [shown, String.toList_append, Nat.toList_repr]
    simp [padded, Int.negSucc_lt_zero]

/-- An integer as it is written spells itself. -/
theorem isDecimal_toString (value : Int) : IsDecimal (toString value).toList value := by
  -- It is written with no zeros in front.
  rw [toList_toString]
  exact isDecimal_padded 0 value

/-- Integers are read back. -/
theorem Form.integer_lawful : Form.integer.Lawful where
  plain value := .text (toString value)
  read_write value := by
    -- They are written as texts without blanks.
    have spelled := isDecimal_toString value
    have trimmed := spelled.isTrimmed.trim_eq
    simp only [integer, Value.ofString, trimmed, readDecimal_eq_ok_iff.mpr spelled]

/-! ### Literals -/

/-- A number in an object of its own. -/
def wrapped (chars : List Char) : Value :=
  -- The name tells it from other objects.
  .ofMembers [(wrappedNumber, .ofString (String.ofList chars))]

/-- A number literal as it is handed to a reader of integers. -/
inductive Handed where
  /-- A natural number of sixty-four bits. -/
  | unsigned (value : UInt64)
  /-- An integer of sixty-four bits behind a minus sign. -/
  | signed (value : Int64)
  /-- Any other number, by its digits. -/
  | digits (chars : List Char)

/-- What a literal is handed over as: an integer that fits a word is handed over as that word. -/
def Handed.ofDecimal (decimal : Decimal) : Handed :=
  -- A minus sign leaves one bit less, and one number more at the lower end.
  let magnitude := Text.digitsValue decimal.whole
  if decimal.isInteger ∧ decimal.negative = false ∧ magnitude < 2 ^ 64 then
    .unsigned (UInt64.ofNat magnitude)
  else if decimal.isInteger ∧ decimal.negative = true ∧ magnitude ≤ 2 ^ 63 then
    .signed (Int64.ofInt (-magnitude))
  else .digits decimal.chars

/-- The integer of what was handed over; digits come in an object of their own. -/
def Handed.read (form : Form Int) : Handed → Except Fault Int
  | .unsigned value => .ok value.toNat
  | .signed value => .ok value.toInt
  | .digits chars => form.read (wrapped chars)

/-- A text is read without the blanks around it. -/
theorem Form.read_text (content : String) :
    Form.integer.read (.ofString content) = readDecimal (Text.trim content.toList) := rfl

/-- Digits that are handed over under a name are read as they stand. -/
theorem Form.read_wrapped (chars : List Char) :
    Form.integer.read (wrapped chars) = readDecimal chars := by
  -- The name is that of numbers, and its content is a text.
  cases digits : readDecimal chars <;>
    simp [wrapped, Value.ofMembers, Form.integer, Value.ofString, Value.memberName, Form.text,
      digits, endOf, skipEnding, bind, Except.bind, pure, Except.pure]

/-- The digits of a literal without fraction and exponent are an integer. -/
theorem isDecimal_chars (written : IsDigits decimal.whole) (whole : decimal.isInteger = true) :
    IsDecimal decimal.chars (if decimal.negative then -Text.digitsValue decimal.whole
      else Text.digitsValue decimal.whole) := by
  obtain ⟨negative, digits, fraction, exponent⟩ := decimal
  -- Nothing stands behind the digits.
  obtain ⟨rfl, rfl⟩ : fraction = none ∧ exponent = none := by
    simpa [Decimal.isInteger] using whole
  cases negative with
  | false => simpa [Decimal.chars] using IsDecimal.plain written
  | true => simpa [Decimal.chars] using IsDecimal.minus written

/-- An integer is digits and a sign, without point and exponent. -/
theorem IsDecimal.mem (spelled : IsDecimal chars value) (char : Char) (member : char ∈ chars) :
    char = '-' ∨ Text.isDigit char = true := by
  -- Apart from a sign in front all characters are digits.
  cases spelled with
  | plain written => exact .inr (written.all char member)
  | minus written => exact (List.mem_cons.mp member).imp id (written.all char)

/-- A fraction or an exponent makes a literal no integer, whatever its value. -/
theorem not_isDecimal_chars (broken : decimal.isInteger = false) (value : Int) :
    ¬ IsDecimal decimal.chars value := by
  intro spelled
  obtain ⟨negative, digits, fraction, exponent⟩ := decimal
  -- The point or the letter of the exponent is neither sign nor digit.
  cases fraction with
  | some behind =>
    rcases spelled.mem '.' (by simp [Decimal.chars]) with sign | digit
    · cases sign
    · cases digit
  | none =>
    cases exponent with
    | none => simp [Decimal.isInteger] at broken
    | some power =>
      rcases spelled.mem 'e' (by simp [Decimal.chars]) with sign | digit
      · cases sign
      · cases digit

/-- A literal is read as what it is handed over as: as a word or by its digits makes no
difference. -/
theorem Form.read_number (written : IsDigits decimal.whole) :
    Form.integer.read (.number decimal) = (Handed.ofDecimal decimal).read Form.integer := by
  have digits : Form.integer.read (.number decimal) = readDecimal decimal.chars := rfl
  -- Words are handed over where the number is small enough, and its characters otherwise.
  rw [digits, Handed.ofDecimal]
  split
  · rename_i natural
    obtain ⟨whole, positive, small⟩ := natural
    have spelled := isDecimal_chars written whole
    rw [positive, if_neg Bool.false_ne_true] at spelled
    rw [readDecimal_eq_ok_iff.mpr spelled, Handed.read, UInt64.toNat_ofNat_of_lt' small]
  · split
    · rename_i negative
      obtain ⟨whole, minus, small⟩ := negative
      have spelled := isDecimal_chars written whole
      rw [minus, if_pos rfl] at spelled
      -- Between the smallest negative word and zero nothing is lost.
      rw [readDecimal_eq_ok_iff.mpr spelled, Handed.read,
        Int64.toInt_ofInt_of_le (by omega) (by omega)]
    · exact (Form.read_wrapped decimal.chars).symm

/-- An integer as it is written is a literal. -/
theorem isLiteral_toString (value : Int) : IsLiteral (toString value).toList
    ⟨decide (value < 0), Nat.toDigits 10 value.natAbs, none, none⟩ := by
  -- There are no zeros in front, and neither point nor exponent.
  rw [toList_toString]
  simpa [padded] using isLiteral_toDigits (decide (value < 0)) value.natAbs

/-- The characters of the literal are those that the integer is written with. -/
theorem chars_toDigits (value : Int) :
    Decimal.chars ⟨decide (value < 0), Nat.toDigits 10 value.natAbs, none, none⟩ =
      (toString value).toList := by
  -- Both are a sign where it is negative, and then digits.
  rw [toList_toString]
  simp [padded, Decimal.chars]

/-- A literal has digits in front of its point. -/
theorem IsLiteral.isDigits_whole {text : List Char} (literal : IsLiteral text decimal) :
    IsDigits decimal.whole := by
  -- They are its first part.
  obtain ⟨negative, written, -⟩ := literal
  exact written

/-- A text that spells a value is read as that value is. -/
theorem Form.parse_of_spells {α : Type} (form : Form α) {text : List Char} {given : Value}
    (spells : Spells text given) : form.parse (String.ofList text) = form.read given := by
  -- The document is read to its end, with no depth exceeded.
  simp only [parse, spells.readDocument, bind, Except.bind, Bool.false_eq_true, if_false, pure,
    Except.pure]
  cases form.read given <;> rfl

/-- Integers are read exactly from every way to write them, and from nothing else. -/
structure Form.Exact (form : Form Int) : Prop where
  /-- An integer is written as a text of its digits, from which it is read back. -/
  written : ∀ value, form.write value = .ofString (toString value) ∧
    form.read (.ofString (toString value)) = .ok value ∧
    form.parse (form.render value) = .ok value
  /-- Its literal is read as itself. -/
  literal : ∀ value, form.parse (toString value) = .ok value
  /-- So is a text of its digits with zeros in front of them and blanks around. -/
  text : ∀ value zeros before after, (∀ char ∈ before ++ after, Text.isBlank char = true) →
    form.read (.ofString (String.ofList (before ++ padded zeros value ++ after))) = .ok value
  /-- A text is read as an integer exactly when, blanks around it apart, it is digits with a minus
  sign that may be missing. -/
  text_iff : ∀ content value, form.read (.ofString content) = .ok value ↔
    IsDecimal (Text.trim content.toList) value
  /-- A literal of any size is read as what it is handed over as. -/
  handed : ∀ text decimal, IsLiteral text decimal →
    form.parse (String.ofList text) = (Handed.ofDecimal decimal).read form
  /-- A literal without fraction and exponent stands for the number of its digits, -/
  integer : ∀ text decimal, IsLiteral text decimal → decimal.isInteger = true →
    form.parse (String.ofList text) = .ok (if decimal.negative then -Text.digitsValue decimal.whole
      else Text.digitsValue decimal.whole)
  /-- and any other is refused. -/
  broken : ∀ text decimal, IsLiteral text decimal → decimal.isInteger = false →
    form.parse (String.ofList text) =
      .error (.mismatch (.notDecimal (.text (String.ofList decimal.chars))))
  /-- The word for nothing is refused, -/
  null : form.read .null = .error (.mismatch (.notDecimal .null))
  /-- truth words are, -/
  bool : ∀ truth, form.read (.bool truth) = .error (.mismatch (.notDecimal (.bool truth)))
  /-- arrays are, -/
  array : ∀ elements ending,
    form.read (.array elements ending) = .error (.mismatch (.notDecimal .sequence))
  /-- and objects are whose first member is no wrapped number. -/
  object : ∀ members : List (String × Value),
    (∀ member ∈ members.head?, member.1 ≠ wrappedNumber) →
      form.read (.ofMembers members) = .error (.mismatch (.notDecimal .map))

/-- Integers of any size are read exactly. -/
theorem Form.integer_exact : Form.integer.Exact where
  written value :=
    ⟨rfl, integer_lawful.read_write value, integer_lawful.parse_render value⟩
  literal value := by
    have parsed := parse_of_spells Form.integer (isLiteral_toString value).spells
    -- The literal hands its own characters over.
    rw [String.ofList_toList] at parsed
    have spelled := isDecimal_toString value
    rw [← chars_toDigits] at spelled
    rw [parsed]
    exact readDecimal_eq_ok_iff.mpr spelled
  text value zeros before after blank := by
    have spelled := isDecimal_padded zeros value
    -- The blanks are taken off at both ends, and what is left begins and ends with no blank.
    have trimmed := Text.trim_append spelled.isTrimmed
      (fun char member => blank char (List.mem_append_left after member))
      (fun char member => blank char (List.mem_append_right before member))
    rw [read_text, String.toList_ofList, trimmed]
    exact readDecimal_eq_ok_iff.mpr spelled
  text_iff content value := readDecimal_eq_ok_iff
  handed text decimal literal := by
    rw [parse_of_spells _ literal.spells, read_number literal.isDigits_whole]
  integer text decimal literal whole := by
    rw [parse_of_spells _ literal.spells]
    exact readDecimal_eq_ok_iff.mpr (isDecimal_chars literal.isDigits_whole whole)
  broken text decimal literal broken := by
    rw [parse_of_spells _ literal.spells]
    -- A fraction or an exponent leaves a character that no integer has.
    exact readDecimal_of_not (not_isDecimal_chars broken)
  null := rfl
  bool _ := rfl
  array _ _ := rfl
  object members ordinary := by
    cases members with
    | nil => rfl
    -- Objects are looked at for the name of numbers, which this one does not begin with.
    | cons member rest =>
      have other := ordinary member rfl
      simp [Form.integer, Value.ofMembers, Value.ofString, Value.memberName, other, bind,
        Except.bind, throw, throwThe, MonadExceptOf.throw]

end Countersign.Json
