import Countersign.Bytes
import Countersign.Text.Digits
import Countersign.Text.Quoted

/-! Octets written as hexadecimal digits, and the reading of such digits. -/

namespace Countersign.Hex

/-- Why a text is not a sequence of hexadecimal octets. -/
inductive Fault where
  /-- The digits do not pair up. -/
  | oddLength
  /-- An octet of the text is no hexadecimal digit. -/
  | invalidDigit (octet : UInt8) (position : Nat)
  deriving DecidableEq, Repr

/-- The wording of a hexadecimal fault. -/
def Fault.message : Fault → String
  | .oddLength => "Odd number of digits"
  | .invalidDigit octet position =>
    -- The offending octet is shown as the character with that code point.
    "Invalid character " ++ Text.quotedChar (Char.ofNat octet.toNat) ++
      " at position " ++ toString position

/-- The two lowercase digits of one octet, high half first. -/
def octetDigits (octet : UInt8) : List Char :=
  -- The high and the low half each give one digit.
  [Nat.digitChar (octet.toNat / 16), Nat.digitChar (octet.toNat % 16)]

/-- Lowercase hexadecimal digits of an octet sequence, two to each octet. -/
def digits (bytes : Bytes) : List Char := bytes.flatMap octetDigits

/-- An octet sequence as a text of lowercase hexadecimal digits. -/
def encode (bytes : Bytes) : String := String.ofList (digits bytes)

/-- An octet sequence as lowercase hexadecimal digits behind `0x`. -/
def encodeMarked (bytes : Bytes) : String := "0x" ++ encode bytes

/-- The value of the digit at a position, or the fault there. -/
def digitAt (octet : UInt8) (position : Nat) : Except Fault Nat :=
  -- A fault names both the octet and where it stands.
  match Text.hexValue? (Char.ofNat octet.toNat) with
  | some value => .ok value
  | none => .error (.invalidDigit octet position)

/-- Octets of paired digits, where the first digit stands at a given position. -/
def pairs : Nat → Bytes → Except Fault Bytes
  | _, [] => .ok []
  | _, [_] => .error .oddLength
  | position, high :: low :: rest => do
    -- The leftmost bad digit is the one reported.
    let upper ← digitAt high position
    let lower ← digitAt low (position + 1)
    let tail ← pairs (position + 2) rest
    return UInt8.ofNat (upper * 16 + lower) :: tail

/-- The octets that a sequence of ASCII digits stands for; an odd count is reported first. -/
def decodeOctets (text : Bytes) : Except Fault Bytes :=
  -- The count is tested before any digit is looked at.
  if text.length % 2 = 1 then .error .oddLength else pairs 0 text

/-- The octets that a text of hexadecimal digits stands for; positions count UTF-8 octets. -/
def decode (text : String) : Except Fault Bytes := decodeOctets (Bytes.ofText text)

/-- A text without the given mark in front, if it begins with that mark. -/
def dropMark? (mark text : String) : Option String :=
  -- Texts are compared as sequences of characters.
  if mark.toList.isPrefixOf text.toList then
    some (String.ofList (text.toList.drop mark.length)) else none

/-- The octets that a text of hexadecimal digits stands for, behind `0x` or bare. -/
def decodeMarked (text : String) : Except Fault Bytes :=
  -- One mark at most is removed.
  decode ((dropMark? "0x" text).getD text)

end Countersign.Hex
