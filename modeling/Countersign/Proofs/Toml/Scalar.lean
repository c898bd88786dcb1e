import Countersign.Proofs.Text.Digits
import Countersign.Proofs.Text.Parts
import Countersign.Toml.Scalar

/-! Digits of a number are read as that number: they are no date, no time and no fraction. -/

namespace Countersign.Toml

open Text

variable {text digits : List Char} {number : Nat}

/-- Without dashes there is no date. -/
theorem isDate_of_not_mem (free : '-' ∉ text) : isDate text = false := by
  -- A date has three parts.
  rw [isDate, parts_of_not_mem free]

/-- Without colons there is no time. -/
theorem isTime_of_not_mem (free : ':' ∉ text) : isTime text = false := by
  -- A time has three parts.
  rw [isTime, parts_of_not_mem free]

/-- Without dashes and colons there is neither a date nor a time. -/
theorem isMoment_of_not_mem (dash : '-' ∉ text) (colon : ':' ∉ text) : isMoment text = false := by
  -- Only the front can be a date, and it has no dashes either.
  have date : isDate (text.take 10) = false :=
    isDate_of_not_mem fun member => dash (List.mem_of_mem_take member)
  simp only [isMoment, date, isTime_of_not_mem colon]
  split <;> rfl

/-- Digits have no sign. -/
theorem splitSign_of_isDigits (written : IsDigits digits) : splitSign digits = (false, digits) := by
  rw [splitSign]
  -- Neither a plus nor a minus is a digit.
  · rintro rest rfl
    exact written.ne_cons rfl _ rfl
  · rintro rest rfl
    exact written.ne_cons rfl _ rfl

/-- Digits without underlines are all kept. -/
theorem plainDigits?_of_isDigits (written : IsDigits digits) :
    plainDigits? isDigit digits = some digits := by
  have all : digits.all isDigit = true := List.all_eq_true.mpr written.all
  -- There is one part, of digits only.
  simp [plainDigits?, parts_of_not_mem (written.not_mem '_' rfl), written.filled, all]

/-- Digits alone are no number with a fraction. -/
theorem float?_of_isDigits (written : IsDigits digits) : float? digits = none := by
  have same : digits.map (fun char => if char = 'E' then 'e' else char) = digits := by
    refine (List.map_congr_left fun char member => if_neg ?_).trans (List.map_id digits)
    rintro rfl
    exact written.not_mem 'E' rfl member
  have finite : digits ≠ ['i', 'n', 'f'] := written.ne_cons rfl _
  have defined : digits ≠ ['n', 'a', 'n'] := written.ne_cons rfl _
  rw [float?, splitSign_of_isDigits written]
  -- Neither an exponent nor a fraction is there.
  simp [same, finite, defined, parts_of_not_mem (written.not_mem 'e' rfl),
    parts_of_not_mem (written.not_mem '.' rfl)]

/-- A number is written without zeros in front. -/
theorem isMinimal_toDigits (number : Nat) : isMinimal (Nat.toDigits 10 number) = true := by
  rcases Nat.eq_zero_or_pos number with rfl | positive
  -- Zero itself is the single digit that may be one.
  · rfl
  · have front := head?_toDigits positive
    rw [isMinimal]
    intro second rest same
    rw [same] at front
    exact front rfl

/-- Digits behind a zero have a mark only if they are no decimal digits. -/
theorem unbounded?_of_isDigits (written : IsDigits digits) (minimal : isMinimal digits = true) :
    unbounded? digits = some (digitsValue digits : Int) := by
  -- A base is marked by a letter, which is no digit.
  have unmarked (mark : Char) (other : isDigit mark = false) (rest : List Char) :
      digits ≠ '0' :: mark :: rest := by
    rintro rfl
    exact written.not_mem mark other (List.mem_cons_of_mem _ List.mem_cons_self)
  rw [unbounded?]
  · rw [splitSign_of_isDigits written]
    simp [plainDigits?_of_isDigits written, minimal]
  · exact unmarked 'x' rfl
  · exact unmarked 'o' rfl
  · exact unmarked 'b' rfl

/-- The digits of a number of at most sixty-three bits are read as that integer. -/
theorem integer?_toDigits (fits : number < Nat.pow 2 63) :
    integer? (Nat.toDigits 10 number) = some (.integer number) := by
  have value := unbounded?_of_isDigits (isDigits_toDigits number) (isMinimal_toDigits number)
  have bound : Nat.pow 2 63 = 9223372036854775808 := rfl
  -- The digits have no sign, so the lower bound is out of reach.
  have inside : ¬ ((number : Int) < -0x8000000000000000 ∨ 0x8000000000000000 ≤ (number : Int)) := by
    omega
  rw [digitsValue_toDigits] at value
  rw [integer?, value]
  simp only [Option.bind_eq_bind, Option.bind_some, if_neg inside, Option.pure_def]

/-- The digits of a number of at most sixty-three bits are read as that number. -/
theorem scalar?_toDigits (fits : number < Nat.pow 2 63) :
    scalar? (Nat.toDigits 10 number) = some (.integer number) := by
  have written := isDigits_toDigits number
  -- What is tried before an integer is ruled out, one form after the other.
  have truth : Nat.toDigits 10 number ≠ "true".toList := written.ne_cons rfl _
  have falsehood : Nat.toDigits 10 number ≠ "false".toList := written.ne_cons rfl _
  have moment := isMoment_of_not_mem (written.not_mem '-' rfl) (written.not_mem ':' rfl)
  rw [scalar?, if_neg truth, if_neg falsehood, moment, float?_of_isDigits written,
    integer?_toDigits fits]
  rfl

end Countersign.Toml
