import Countersign.Text.Decimal
import Countersign.Text.Parts
import Countersign.Toml.Value

/-! Values of TOML written without quotes or brackets: truth values, numbers, dates and times. -/

namespace Countersign.Toml

/-- The digits of a number, with single underscores between digits removed. -/
def plainDigits? (isDigit : Char → Bool) (text : List Char) : Option (List Char) :=
  -- Every part between underscores must hold digits.
  let groups := Text.parts '_' text
  if groups.all fun group => !group.isEmpty && group.all isDigit then some groups.flatten else none

/-- Whether digits are written without a superfluous leading zero. -/
def isMinimal (digits : List Char) : Bool :=
  -- A single zero is no leading zero.
  match digits with
  | '0' :: _ :: _ => false
  | _ => true

/-- A text without its sign, and whether the sign is a minus. -/
def splitSign (text : List Char) : Bool × List Char :=
  -- A sign is optional.
  match text with
  | '-' :: rest => (true, rest)
  | '+' :: rest => (false, rest)
  | _ => (false, text)

/-- The number of digits in a base up to sixteen, if they all belong to it. -/
def based? (base : Nat) (text : List Char) : Option Int := do
  -- Letters count from ten on.
  let digits ← plainDigits? (fun char => (Text.hexValue? char).any (· < base)) text
  let values ← digits.mapM Text.hexValue?
  return Int.ofNat (Text.positional base values)

/-- The integer that a text spells, of any size. -/
def unbounded? (text : List Char) : Option Int :=
  -- Bases other than ten have a mark and no sign.
  match text with
  | '0' :: 'x' :: digits => based? 16 digits
  | '0' :: 'o' :: digits => based? 8 digits
  | '0' :: 'b' :: digits => based? 2 digits
  | _ => do
    let (negative, written) := splitSign text
    let digits ← plainDigits? Text.isDigit written
    if !isMinimal written then none
    let value : Int := Text.digitsValue digits
    return if negative then -value else value

/-- The integer that a text spells, which must fit sixty-four bits with sign. -/
def integer? (text : List Char) : Option Value := do
  -- The least integer has no positive counterpart.
  let value ← unbounded? text
  if value < -0x8000000000000000 ∨ 0x8000000000000000 ≤ value then none
  return .integer value

/-- The exponent of a number: whether it is negative, and its digits. -/
def exponent? (text : List Char) : Option (Bool × List Char) := do
  -- Leading zeros are allowed here.
  let (negative, written) := splitSign text
  let digits ← plainDigits? Text.isDigit written
  return (negative, digits)

/-- The value of a number with a fraction or an exponent. -/
def float? (text : List Char) : Option Value := do
  -- Words stand for what is not finite; too large a number is refused unless it is negative.
  let (negative, written) := splitSign text
  if written = "inf".toList ∨ written = "nan".toList then return .float
  let lower := written.map fun char => if char = 'E' then 'e' else char
  let (mantissa, exponent) ←
    match Text.parts 'e' lower with
    | [mantissa] => some (mantissa, none)
    | [mantissa, power] => (exponent? power).map fun power => (mantissa, some power)
    | _ => none
  let (whole, fraction) ←
    match Text.parts '.' mantissa with
    | [whole] => some (whole, none)
    | [whole, digits] => (plainDigits? Text.isDigit digits).map fun digits => (whole, some digits)
    | _ => none
  let digits ← plainDigits? Text.isDigit whole
  if !isMinimal whole || (fraction.isNone && exponent.isNone) then none
  let decimal : Text.Decimal := ⟨negative, digits, fraction, exponent⟩
  if decimal.exceedsDouble && !negative then none
  return .float

/-- A number of exactly so many digits. -/
def fixedDigits? (count : Nat) (text : List Char) : Option Nat :=
  -- Neither signs nor underscores are allowed.
  if text.length = count then Text.natural? text else none

/-- The number of days in a month. -/
def daysIn (year month : Nat) : Nat :=
  -- February is longer in leap years.
  if month = 2 then
    if year % 4 = 0 ∧ (year % 100 ≠ 0 ∨ year % 400 = 0) then 29 else 28
  else if [4, 6, 9, 11].contains month then 30
  else 31

/-- Whether a text is a date. -/
def isDate (text : List Char) : Bool :=
  -- The day must exist in its month.
  match Text.parts '-' text with
  | [year, month, day] =>
    match fixedDigits? 4 year, fixedDigits? 2 month, fixedDigits? 2 day with
    | some year, some month, some day =>
      1 ≤ month && month ≤ 12 && 1 ≤ day && decide (day ≤ daysIn year month)
    | _, _, _ => false
  | _ => false

/-- Whether a text is hours and minutes. -/
def isHourMinute (hour minute : List Char) : Bool :=
  -- Two digits each.
  match fixedDigits? 2 hour, fixedDigits? 2 minute with
  | some hour, some minute => decide (hour ≤ 23) && decide (minute ≤ 59)
  | _, _ => false

/-- Whether a text is a time of day without offset. -/
def isTime (text : List Char) : Bool :=
  -- A minute may have a leap second; seconds may have a fraction.
  match Text.parts ':' text with
  | [hour, minute, second] =>
    isHourMinute hour minute &&
      match Text.parts '.' second with
      | [whole] => (fixedDigits? 2 whole).any (· ≤ 60)
      | [whole, fraction] => (fixedDigits? 2 whole).any (· ≤ 60) && (Text.natural? fraction).isSome
      | _ => false
  | _ => false

/-- Whether a text is a time of day that may have an offset. -/
def isTimeWithOffset (text : List Char) : Bool :=
  -- The offset is a letter, or six characters from its sign on.
  match text.getLast? with
  | some 'Z' => isTime text.dropLast
  | some 'z' => isTime text.dropLast
  | _ =>
    let offset := text.drop (text.length - 6)
    let signed :=
      match offset with
      | sign :: rest =>
        (sign = '+' || sign = '-') &&
          match Text.parts ':' rest with
          | [hour, minute] => isHourMinute hour minute
          | _ => false
      | [] => false
    if signed then isTime (text.take (text.length - 6)) else isTime text

/-- Whether a text is a date, a time, or a date with a time behind a mark. -/
def isMoment (text : List Char) : Bool :=
  -- A date takes ten characters.
  let date := text.take 10
  match text.drop 10 with
  | [] => isDate date || isTime text
  | mark :: rest =>
    (isDate date && (mark = 'T' || mark = 't' || mark = ' ') && isTimeWithOffset rest)
      || isTime text

/-- The value of a text without quotes or brackets. -/
def scalar? (text : List Char) : Option Value :=
  -- The kinds do not overlap.
  if text = "true".toList then some (.boolean true)
  else if text = "false".toList then some (.boolean false)
  else if isMoment text then some .moment
  else (float? text).orElse fun _ => integer? text

end Countersign.Toml
