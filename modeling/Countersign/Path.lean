import Countersign.Json.Form
import Countersign.Text.Digits
import Countersign.Text.Parts

/-! Paths to keys: components below 2^32, of which those from 2^31 on are hardened. -/

namespace Countersign

/-- A path from a master key to a derived key. -/
structure Path where
  /-- The components from the master key downwards. -/
  components : List UInt32
  deriving DecidableEq, Repr

namespace Path

/-- The least component that is hardened. -/
def hardened : Nat := Nat.pow 2 31

/-- A text that is no path. -/
structure Invalid where
  /-- The text as it was given. -/
  text : String
  deriving DecidableEq, Repr

/-- The wording of an invalid path. -/
def Invalid.message (invalid : Invalid) : String :=
  -- A path is part of a configuration.
  "config error: invalid derivation path: " ++ invalid.text

/-- The default account. -/
def default : Path :=
  -- Three hardened components and two plain ones.
  ⟨[44 + 0x80000000, 500 + 0x80000000, 0x80000000, 0, 0]⟩

/-- The component of an index, which must be below the hardened ones. -/
def component? (index : List Char) (isHardened : Bool) : Option UInt32 := do
  -- One plus sign may stand before the digits.
  let value ← Text.natural? (match index with
    | '+' :: digits => digits
    | _ => index)
  if hardened ≤ value then none
  return UInt32.ofNat (if isHardened then value + hardened else value)

/-- The component that a part of a path spells. -/
def readComponent? (part : List Char) : Option UInt32 :=
  -- One mark at the end hardens the component.
  match part.getLast? with
  | some '\'' => component? part.dropLast true
  | some 'h' => component? part.dropLast true
  | _ => component? part false

/-- The path that a text spells, blanks around it apart. -/
def parse (text : String) : Except Invalid Path :=
  -- The first part names the master key.
  match Text.parts '/' (Text.trim text.toList) with
  | ['m'] :: parts =>
    match parts.mapM readComponent? with
    | some components => .ok ⟨components⟩
    | none => .error ⟨text⟩
  | _ => .error ⟨text⟩

/-- A component as it is written, behind its slash. -/
def displayComponent (component : UInt32) : List Char :=
  -- A hardened component is written as its index with a mark.
  let value := component.toNat
  if hardened ≤ value then '/' :: Nat.toDigits 10 (value - hardened) ++ ['\'']
  else '/' :: Nat.toDigits 10 value

/-- The written form of a path. -/
def display (path : Path) : String :=
  -- The master key, then all components.
  String.ofList ('m' :: path.components.flatMap displayComponent)

/-- The path with another last component. -/
def withIndex (path : Path) (index : UInt32) : Path :=
  -- A path without components gets one.
  ⟨path.components.dropLast ++ [index]⟩

instance : Inhabited Path := ⟨default⟩

end Path

/-- A path, as its written form. -/
def Json.Form.path : Json.Form Path :=
  -- A refusal is worded by the reader of paths.
  .refine Path.display fun text => (Path.parse text).mapError Path.Invalid.message

end Countersign
