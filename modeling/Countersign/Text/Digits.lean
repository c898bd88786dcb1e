/-! Characters that are digits, and the numbers that they stand for. -/

namespace Countersign.Text

/-- Whether a character is an ASCII digit. -/
def isDigit (char : Char) : Bool := '0' ≤ char && char ≤ '9'

/-- The natural number of a sequence of ASCII digits. -/
def digitsValue (digits : List Char) : Nat := Nat.ofDigitChars 10 digits 0

/-- The natural number of a nonempty sequence of ASCII digits. -/
def natural? (digits : List Char) : Option Nat :=
  -- Leading zeros do not matter.
  if digits.isEmpty || !digits.all isDigit then none else some (digitsValue digits)

/-- The digits of a number are ASCII digits. -/
theorem isDigit_of_mem_toDigits {value : Nat} {char : Char}
    (member : char ∈ Nat.toDigits 10 value) : isDigit char = true := by
  -- The range of digits is the same, whether by character or by code point.
  have digit := Nat.isDigit_of_mem_toDigits (by decide) (by decide) member
  simp only [Char.isDigit, Bool.and_eq_true, decide_eq_true_eq] at digit
  simp only [isDigit, Bool.and_eq_true, decide_eq_true_eq]
  exact digit

/-- The value of a hexadecimal digit in either letter case. -/
def hexValue? (char : Char) : Option Nat :=
  -- The three ASCII ranges that hold hexadecimal digits.
  if isDigit char then some (char.toNat - 48)
  else if 'A' ≤ char && char ≤ 'F' then some (char.toNat - 55)
  else if 'a' ≤ char && char ≤ 'f' then some (char.toNat - 87)
  else none

/-- The number with the given digits in a base, the highest digit first. -/
def positional (base : Nat) (digits : List Nat) : Nat :=
  -- Each digit shifts what stands before it by one place.
  digits.foldl (fun value digit => value * base + digit) 0

/-- Each of the sixteen digits reads back as its own value. -/
theorem hexValue?_digitChar {value : Nat} (small : value < 16) :
    hexValue? value.digitChar = some value := by
  -- Sixteen characters, each checked against the three ranges.
  revert value
  decide

end Countersign.Text
