import Countersign.Hex

/-! Account addresses of twenty octets, and their written forms without a checksum. -/

namespace Countersign

/-- An account address. -/
abbrev Address := FixedBytes 20

namespace Address

/-- Why something is not an address. -/
inductive Fault where
  /-- A text has another number of digits than an address, or a wrong checksum. -/
  | invalidText (text : String)
  /-- A text of the right size holds something other than digits. -/
  | invalidHex (cause : Hex.Fault)
  /-- An octet sequence has another length than an address. -/
  | invalidLength (actual : Nat)
  deriving DecidableEq, Repr

/-- The wording of a fault. -/
def Fault.message : Fault → String
  | .invalidText text => "invalid address: " ++ text
  | .invalidHex cause => "invalid hex: " ++ cause.message
  | .invalidLength actual =>
    "invalid length: expected 20 bytes, got " ++ toString actual

/-- The address with the given octets. -/
def ofBytes (bytes : Bytes) : Except Fault Address :=
  -- There must be twenty of them.
  match FixedBytes.ofBytes? bytes with
  | some address => .ok address
  | none => .error (.invalidLength bytes.length)

/-- The address whose first octets are those of a label and whose others are zero. -/
def ofLabel (label : String) : Address := FixedBytes.leftJustified (Bytes.ofText label)

/-- The address in lowercase digits behind `0x`. -/
def display (address : Address) : String := Hex.encodeMarked address.toBytes

/-- A text without the mark `0x` or `0X` in front, if it has one. -/
def bareDigits (text : String) : String :=
  -- One mark at most is removed.
  (Hex.dropMark? "0x" text <|> Hex.dropMark? "0X" text).getD text

/-- The address that a text spells in digits of either letter case, marked or bare. -/
def parse (text : String) : Except Fault Address :=
  -- The size is judged in octets of the text, before any digit is looked at.
  let digits := Bytes.ofText (bareDigits text)
  if digits.length ≠ 40 then .error (.invalidText text)
  else
    match Hex.decodeOctets digits with
    | .error cause => .error (.invalidHex cause)
    | .ok bytes => ofBytes bytes

end Address

end Countersign
