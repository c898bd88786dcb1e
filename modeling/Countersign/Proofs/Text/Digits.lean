import Countersign.Proofs.Text.Parts
import Countersign.Text.Digits

/-! Sequences of digits: where they end, and the numbers that they stand for. -/

namespace Countersign.Text

/-- At least one ASCII digit, and nothing else. -/
structure IsDigits (digits : List Char) : Prop where
  /-- There is a digit. -/
  filled : digits ≠ []
  /-- There is nothing else. -/
  all : ∀ char ∈ digits, isDigit char = true

/-- A digit is the one of a number below ten. -/
theorem exists_digitChar {char : Char} (digit : isDigit char = true) :
    ∃ value < 10, char = value.digitChar := by
  -- The ten digits stand one behind the other.
  have codes : ∀ value < 10, Char.ofNat (48 + value) = value.digitChar := by decide
  simp only [isDigit, Bool.and_eq_true, decide_eq_true_eq] at digit
  have low : 48 ≤ char.toNat := digit.1
  have high : char.toNat ≤ 57 := digit.2
  have same := codes (char.toNat - 48) (by omega)
  rw [Nat.add_sub_cancel' low, Char.ofNat_toNat] at same
  exact ⟨_, by omega, same⟩

/-- A property of all digits is decided by going through them. -/
instance decidableDigits (p : Char → Prop) [DecidablePred p] :
    Decidable (∀ char : Char, isDigit char = true → p char) :=
  decidable_of_iff (∀ value < 10, p value.digitChar) <| by
    have digits : ∀ value < 10, isDigit value.digitChar = true := by decide
    constructor
    · intro all char digit
      obtain ⟨value, small, rfl⟩ := exists_digitChar digit
      exact all value small
    · intro all value small
      exact all _ (digits value small)

variable {digits rest : List Char} {value : Nat}

/-- The digits that have a value are those of which there is at least one. -/
theorem natural?_eq_some_iff :
    natural? digits = some value ↔ IsDigits digits ∧ digitsValue digits = value := by
  constructor
  · intro read
    rw [natural?] at read
    split at read
    · cases read
    -- Neither of the two tests has refused the digits.
    · rename_i plain
      simp only [Bool.or_eq_true, List.isEmpty_iff, Bool.not_eq_true', not_or, Bool.not_eq_false]
        at plain
      exact ⟨⟨plain.1, List.all_eq_true.mp plain.2⟩, Option.some.inj read⟩
  · rintro ⟨⟨filled, all⟩, rfl⟩
    have plain : digits.all isDigit = true := List.all_eq_true.mpr all
    simp [natural?, filled, plain]

/-- Every number is written in digits. -/
theorem isDigits_toDigits (value : Nat) : IsDigits (Nat.toDigits 10 value) :=
  -- Zero has a digit as well.
  ⟨Nat.toDigits_ne_nil, fun _ member => isDigit_of_mem_toDigits member⟩

/-- The digits of a number have its value. -/
@[simp] theorem digitsValue_toDigits (value : Nat) : digitsValue (Nat.toDigits 10 value) = value :=
  Nat.ofDigitChars_ten_toDigits

/-- Zeros in front change nothing. -/
theorem digitsValue_padded (zeros : Nat) (digits : List Char) :
    digitsValue (List.replicate zeros '0' ++ digits) = digitsValue digits := by
  -- The value so far stays zero up to the digits.
  simp [digitsValue, Nat.ofDigitChars_append, Nat.ofDigitChars_replicate_zero]

/-- Digits are digits with zeros in front as well. -/
theorem IsDigits.padded (written : IsDigits digits) (zeros : Nat) :
    IsDigits (List.replicate zeros '0' ++ digits) := by
  refine ⟨by simp [written.filled], ?_⟩
  intro char member
  -- A character is one of the zeros or one of the digits.
  rcases List.mem_append.mp member with zero | digit
  · rw [(List.mem_replicate.mp zero).2]
    rfl
  · exact written.all char digit

/-- What is no digit does not stand among digits. -/
theorem IsDigits.not_mem (written : IsDigits digits) (char : Char) (other : isDigit char = false) :
    char ∉ digits := by
  intro member
  -- It would have to be a digit itself.
  rw [written.all char member] at other
  cases other

/-- Digits do not begin with anything else. -/
theorem IsDigits.append_ne_cons (written : IsDigits digits) {char : Char}
    (other : isDigit char = false) (behind : List Char) : digits ++ rest ≠ char :: behind := by
  cases digits with
  -- There is at least one digit, so the first character is one.
  | nil => exact absurd rfl written.filled
  | cons first others =>
    intro same
    rw [(List.cons.inj same).1.symm, written.all first List.mem_cons_self] at other
    cases other

/-- Digits alone do not begin with anything else either. -/
theorem IsDigits.ne_cons (written : IsDigits digits) {char : Char}
    (other : isDigit char = false) (behind : List Char) : digits ≠ char :: behind := by
  -- They are digits with nothing behind them.
  rw [← List.append_nil digits]
  exact written.append_ne_cons other behind

/-- The last character of digits is a digit. -/
theorem IsDigits.exists_getLast? (written : IsDigits digits) :
    ∃ last, digits.getLast? = some last ∧ isDigit last = true :=
  -- There is a last one because there is one at all.
  ⟨_, List.getLast?_eq_some_getLast written.filled, written.all _ (List.getLast_mem _)⟩

/-- No digit stands in front. -/
def EndsDigits (rest : List Char) : Prop :=
  -- Nothing at all ends them too.
  ∀ char ∈ rest.head?, isDigit char = false

/-- Digits are taken up to where they end. -/
theorem IsDigits.takeWhile_append (written : IsDigits digits) (ends : EndsDigits rest) :
    (digits ++ rest).takeWhile isDigit = digits :=
  -- All of them are digits, and what follows begins with none.
  takeWhile_front written.all ends

/-- What stands behind digits is what is left of them. -/
theorem IsDigits.dropWhile_append (written : IsDigits digits) (ends : EndsDigits rest) :
    (digits ++ rest).dropWhile isDigit = rest :=
  -- All of them are digits, and what follows begins with none.
  dropWhile_front written.all ends

/-- The digits of a number do not begin with zero, unless it is zero. -/
theorem head?_toDigits {number : Nat} (positive : 0 < number) :
    (Nat.toDigits 10 number).head? ≠ some '0' := by
  -- On the number: all digits but the last are those of a tenth of it.
  induction number using Nat.strongRecOn with
  | ind number ih =>
    by_cases small : number < 10
    · rw [Nat.toDigits_of_lt_base small]
      simp [Nat.digitChar_eq_zero]
      omega
    · rw [Nat.toDigits_of_base_le (by decide) (by omega)]
      have rest := ih (number / 10) (by omega) (by omega)
      rwa [List.head?_append, Option.or_of_isSome]
      simp [List.isSome_head?, Nat.toDigits_ne_nil]

end Countersign.Text
