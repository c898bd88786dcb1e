import Countersign.Proofs.Json.Spelling
import Countersign.Proofs.Text.Digits

/-! Number literals: their parts as they stand in a text, which is read up to where it is
stopped. -/

namespace Countersign.Json

open Text (Decimal EndsDigits IsDigits)

/-- How the part of a number behind the point is written. -/
inductive IsFraction : List Char → Option (List Char) → Prop
  /-- There is no point. -/
  | none : IsFraction [] none
  /-- Digits follow the point. -/
  | point {digits : List Char} (written : IsDigits digits) :
    IsFraction ('.' :: digits) (some digits)

/-- How the exponent of a number is written, behind a letter of either case. -/
inductive IsExponent : List Char → Option (Bool × List Char) → Prop
  /-- There is no exponent. -/
  | none : IsExponent [] none
  /-- The digits follow at once. -/
  | bare {mark : Char} {digits : List Char} (letter : mark = 'e' ∨ mark = 'E')
    (written : IsDigits digits) : IsExponent (mark :: digits) (some (false, digits))
  /-- A plus sign stands in front of the digits. -/
  | plus {mark : Char} {digits : List Char} (letter : mark = 'e' ∨ mark = 'E')
    (written : IsDigits digits) : IsExponent (mark :: '+' :: digits) (some (false, digits))
  /-- A minus sign stands in front of the digits. -/
  | minus {mark : Char} {digits : List Char} (letter : mark = 'e' ∨ mark = 'E')
    (written : IsDigits digits) : IsExponent (mark :: '-' :: digits) (some (true, digits))

/-- How a number is written: a leading zero stands alone. -/
inductive IsLiteral : List Char → Decimal → Prop
  /-- A sign that may be missing, digits, a fraction and an exponent. -/
  | parts (negative : Bool) {whole fractionText exponentText : List Char}
    {fraction : Option (List Char)} {exponent : Option (Bool × List Char)}
    (written : IsDigits whole) (minimal : whole = ['0'] ∨ whole.head? ≠ some '0')
    (behind : IsFraction fractionText fraction) (power : IsExponent exponentText exponent) :
    IsLiteral ((if negative then ['-'] else []) ++ (whole ++ (fractionText ++ exponentText)))
      ⟨negative, whole, fraction, exponent⟩

variable {text rest whole fractionText exponentText : List Char} {decimal : Decimal}
  {fraction : Option (List Char)} {exponent : Option (Bool × List Char)}

/-- The digits of a number are a literal, with or without a sign. -/
theorem isLiteral_toDigits (negative : Bool) (number : Nat) :
    IsLiteral ((if negative then ['-'] else []) ++ Nat.toDigits 10 number)
      ⟨negative, Nat.toDigits 10 number, none, none⟩ := by
  -- Zero is the one number whose first digit is zero.
  have minimal : Nat.toDigits 10 number = ['0'] ∨ (Nat.toDigits 10 number).head? ≠ some '0' := by
    rcases Nat.eq_zero_or_pos number with rfl | positive
    · exact .inl rfl
    · exact .inr (Text.head?_toDigits positive)
  simpa using IsLiteral.parts negative (Text.isDigits_toDigits number) minimal .none .none

/-! ### Where the parts end -/

/-- Nothing that stops a value is part of a number. -/
theorem not_isDigit_of_isStop {char : Char} (stop : isStop char = true) :
    Text.isDigit char = false ∧ char ≠ '.' ∧ char ≠ 'e' ∧ char ≠ 'E' := by
  -- There are eight such characters.
  simp only [isStop, isBlank, Bool.or_eq_true, decide_eq_true_eq] at stop
  rcases stop with ((((((rfl | rfl) | rfl) | rfl) | rfl) | rfl) | rfl) | rfl <;> decide

/-- What ends a value ends its digits. -/
theorem Stops.endsDigits (stops : Stops rest) : EndsDigits rest :=
  -- No digit ends a value.
  fun char first => (not_isDigit_of_isStop (stops char first)).1

/-- An exponent, or what stands in its place, ends the digits in front of it. -/
theorem IsExponent.endsDigits (power : IsExponent exponentText exponent) (stops : Stops rest) :
    EndsDigits (exponentText ++ rest) := by
  cases power with
  | none => exact stops.endsDigits
  -- It begins with a letter.
  | bare letter | plus letter | minus letter =>
    rcases letter with rfl | rfl <;> simp [EndsDigits] <;> decide

/-- A fraction, or what stands in its place, ends the digits in front of it. -/
theorem IsFraction.endsDigits (behind : IsFraction fractionText fraction)
    (ends : EndsDigits rest) : EndsDigits (fractionText ++ rest) := by
  cases behind with
  | none => exact ends
  -- It begins with a point.
  | point => simp [EndsDigits]; decide

/-- An exponent, or what stands in its place, does not begin with a point. -/
theorem IsExponent.append_ne_point (power : IsExponent exponentText exponent) (stops : Stops rest)
    (others : List Char) : exponentText ++ rest ≠ '.' :: others := by
  intro same
  cases power with
  | none =>
    subst same
    -- A point does not end a value, so it cannot follow either.
    exact (not_isDigit_of_isStop (stops '.' rfl)).2.1 rfl
  | bare letter | plus letter | minus letter => rcases letter with rfl | rfl <;> cases same

/-! ### Reading the parts -/

/-- An exponent is read up to where the number is stopped. -/
theorem readExponent_append (negative : Bool) (power : IsExponent exponentText exponent)
    (stops : Stops rest) : readExponent negative whole fraction (exponentText ++ rest) =
      (.number ⟨negative, whole, fraction, exponent⟩, rest) := by
  cases power with
  | none =>
    cases rest with
    | nil => rfl
    | cons char behind =>
      obtain ⟨-, -, small, large⟩ := not_isDigit_of_isStop (stops char rfl)
      simp [readExponent, small, large]
  | bare letter written =>
    have taken := written.takeWhile_append stops.endsDigits
    have dropped := written.dropWhile_append stops.endsDigits
    -- Neither sign stands in front of the digits.
    rw [List.cons_append, readExponent, if_pos (by simpa using letter)]
    · simp [taken, dropped, written.filled]
    · exact written.append_ne_cons rfl
    · exact written.append_ne_cons rfl
  | plus letter written | minus letter written =>
    have taken := written.takeWhile_append stops.endsDigits
    have dropped := written.dropWhile_append stops.endsDigits
    simp [readExponent, letter, taken, dropped, written.filled]

/-- What follows the whole digits is read up to where the number is stopped. -/
theorem readFraction_append (negative : Bool) (whole : List Char)
    (behind : IsFraction fractionText fraction) (power : IsExponent exponentText exponent)
    (stops : Stops rest) :
    readFraction negative whole (fractionText ++ (exponentText ++ rest)) =
      (.number ⟨negative, whole, fraction, exponent⟩, rest) := by
  cases behind with
  | none =>
    -- Without a fraction the reader must not take what follows for one.
    rw [List.nil_append, readFraction]
    · exact readExponent_append negative power stops
    · exact power.append_ne_point stops
  | point written =>
    -- The digits of a fraction end at the exponent.
    have ends := power.endsDigits stops
    rw [List.cons_append, readFraction, written.takeWhile_append ends,
      written.dropWhile_append ends, if_neg (by simpa using written.filled),
      readExponent_append negative power stops]

/-- Digits with what follows them are read up to where the number is stopped. -/
theorem readDigits_append (negative : Bool) (written : IsDigits whole)
    (minimal : whole = ['0'] ∨ whole.head? ≠ some '0') (behind : IsFraction fractionText fraction)
    (power : IsExponent exponentText exponent) (stops : Stops rest) :
    readDigits negative (whole ++ (fractionText ++ (exponentText ++ rest))) =
      (.number ⟨negative, whole, fraction, exponent⟩, rest) := by
  have read := readFraction_append negative whole behind power stops
  have ends := behind.endsDigits (power.endsDigits stops)
  rcases minimal with rfl | leading
  · have alone : ((fractionText ++ (exponentText ++ rest)).head?.map Text.isDigit).getD false =
        false := by
      cases first : (fractionText ++ (exponentText ++ rest)).head? with
      | none => rfl
      | some char => exact ends char first
    rw [List.cons_append, List.nil_append, readDigits, alone, ← read]
    rfl
  · -- The reader looks for a leading zero first, and there is none.
    rw [readDigits]
    · rw [written.takeWhile_append ends, written.dropWhile_append ends,
        if_neg (by simpa using written.filled), read]
    · intro others same
      cases whole with
      | nil => exact written.filled rfl
      | cons first digits => exact leading (congrArg some (List.cons.inj same).1)

/-! ### Literals as values -/

/-- A digit is not a blank. -/
theorem isBlank_of_isDigit : ∀ char, Text.isDigit char = true → isBlank char = false := by
  -- There are ten digits and four blanks.
  decide

/-- A value that begins with a digit is a number. -/
theorem readValue_digit {char : Char} (digit : Text.isDigit char = true) (budget : Nat)
    (behind : List Char) :
    readValue (budget + 1) (char :: behind) = readDigits false (char :: behind) := by
  rw [readValue, skipBlanks_cons (isBlank_of_isDigit _ digit)]
  -- None of the other beginnings is a digit.
  split
  case h_9 =>
    rename_i first rest same
    obtain ⟨rfl, rfl⟩ := List.cons.inj same
    rw [if_pos digit]
  case h_1 =>
    rename_i same
    cases same
  all_goals
    rename_i same
    obtain ⟨rfl, -⟩ := List.cons.inj same
    cases digit

/-- A literal is read as its number. -/
theorem IsLiteral.spells (literal : IsLiteral text decimal) : Spells text (.number decimal) := by
  obtain ⟨negative, written, minimal, behind, power⟩ := literal
  rename_i whole fractionText exponentText fraction exponent
  -- Behind the sign both cases are read in the same way.
  have read (rest : List Char) (stops : Stops rest) :=
    readDigits_append negative written minimal behind power stops
  cases negative with
  | true =>
    refine ⟨⟨'-', _, rfl, by decide, by decide⟩, ?_⟩
    intro budget rest enough stops
    obtain ⟨budget, rfl⟩ := Nat.exists_eq_add_of_lt enough
    rw [← read rest stops]
    simp [readValue, skipBlanks_cons (show isBlank '-' = false from rfl)]
  | false =>
    cases digits : whole with
    | nil => exact absurd digits written.filled
    -- The first character is a digit, and so begins no other value.
    | cons first others =>
      subst digits
      have digit : Text.isDigit first = true := written.all first List.mem_cons_self
      constructor
      case begins =>
        refine ⟨first, _, skipBlanks_cons (isBlank_of_isDigit _ digit) _, ?_, ?_⟩
        · rintro rfl
          cases digit
        · rintro rfl
          cases digit
      case reads =>
        intro budget rest enough stops
        obtain ⟨budget, rfl⟩ := Nat.exists_eq_add_of_lt enough
        rw [← read rest stops]
        simpa using readValue_digit digit _ (others ++ (fractionText ++ (exponentText ++ rest)))

/-- The digits of a number are read as that number. -/
theorem spells_toDigits (number : Nat) : Spells (Nat.toDigits 10 number) (.ofNat number) :=
  -- It is a literal without a sign.
  (isLiteral_toDigits false number).spells

end Countersign.Json
