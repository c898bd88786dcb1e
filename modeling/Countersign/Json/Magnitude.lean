import Countersign.Text.Decimal

/-! Numbers too large to be read: the digits are cut to sixty-four bits, then doubles are
multiplied. -/

namespace Countersign.Json

/-- The natural number nearest to a value that has at most fifty-three bits before its zeros. -/
def nearestDouble (value : Nat) : Nat :=
  -- Halfway between two of them, the one whose last bit is even is taken.
  let unit := Nat.pow 2 (value.log2 - 52)
  let quotient := value / unit
  let rest := value % unit
  if unit < 2 * rest ∨ (unit = 2 * rest ∧ quotient % 2 = 1) then (quotient + 1) * unit
  else quotient * unit

/-- A value followed by as many of the given digits as sixty-four bits can hold, and the others. -/
def takeDigits (value : Nat) : List Char → Nat × List Char
  | [] => (value, [])
  | digit :: rest =>
    -- The first digit that does not fit ends the number, even if a later one would fit.
    let longer := Nat.ofDigitChars 10 [digit] value
    if longer < Nat.pow 2 64 then takeDigits longer rest else (value, digit :: rest)

/-- Whether the magnitude of a number is beyond every double, reckoned from its leading digits. -/
def isTooLarge (decimal : Text.Decimal) : Bool :=
  -- Digits left over before the point count as places; behind the point they count for nothing.
  let fraction := decimal.fraction.getD []
  let (leading, beyond) := takeDigits 0 decimal.whole
  let (significand, ignored) := takeDigits leading fraction
  let scale := decimal.power + beyond.length - (fraction.length - ignored.length)
  if significand = 0 ∨ scale < 0 then false
  else if 308 < scale then true
  else
    let factor := nearestDouble (Nat.pow 10 scale.toNat)
    decide (Text.Decimal.doubleLimit ≤ nearestDouble significand * factor)

end Countersign.Json
