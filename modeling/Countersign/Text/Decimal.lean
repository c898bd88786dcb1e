import Countersign.Text.Digits

/-! Decimal numbers as they are written, and those of them beyond every double. -/

namespace Countersign.Text

/-- A number as it is written. -/
structure Decimal where
  /-- Whether a minus sign stands in front. -/
  negative : Bool
  /-- The digits before the point, at least one. -/
  whole : List Char
  /-- The digits behind the point, if there is a point. -/
  fraction : Option (List Char)
  /-- Whether the exponent is negative, and its digits, if there is an exponent. -/
  exponent : Option (Bool × List Char)
  deriving DecidableEq, Repr

namespace Decimal

/-- Whether there is neither a point nor an exponent. -/
def isInteger (decimal : Decimal) : Bool := decimal.fraction.isNone && decimal.exponent.isNone

/-- The number as it is shown, with an explicit sign in the exponent. -/
def chars (decimal : Decimal) : List Char :=
  -- The digits are never changed.
  (if decimal.negative then ['-'] else []) ++ decimal.whole
    ++ (match decimal.fraction with
      | none => []
      | some digits => '.' :: digits)
    ++ (match decimal.exponent with
      | none => []
      | some (negative, digits) => ['e', if negative then '-' else '+'] ++ digits)

/-- The power of ten that the digits are multiplied by. -/
def power (decimal : Decimal) : Int :=
  -- Without an exponent they stand as they are.
  match decimal.exponent with
  | none => 0
  | some (true, digits) => -(digitsValue digits : Int)
  | some (false, digits) => digitsValue digits

/-- The greatest double and half a step more: what is at least this rounds to infinity. -/
def doubleLimit : Nat := Nat.pow 2 1024 - Nat.pow 2 970

/-- Whether the magnitude of a number rounds to a double that is infinite. -/
def exceedsDouble (decimal : Decimal) : Bool :=
  -- Far exponents are settled by counting digits, so no huge power is ever computed.
  let fraction := decimal.fraction.getD []
  let significand := digitsValue (decimal.whole ++ fraction)
  let scale := decimal.power - fraction.length
  let size : Int := (Nat.toDigits 10 significand).length + scale
  if significand = 0 || size < 300 then false
  else if 320 < size then true
  else if 0 ≤ scale then decide (doubleLimit ≤ significand * Nat.pow 10 scale.toNat)
  else decide (doubleLimit * Nat.pow 10 (-scale).toNat ≤ significand)

end Decimal

end Countersign.Text
