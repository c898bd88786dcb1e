/-! Octet sequences: their values as integers, their text, and sequences of fixed length. -/

namespace Countersign

/-- A finite sequence of octets. -/
abbrev Bytes := List UInt8

namespace Bytes

/-- The natural number whose big-endian digits in base 256 are the octets. -/
def toNat (bytes : Bytes) : Nat :=
  -- Each octet shifts what stands before it by one place.
  bytes.foldl (fun value byte => value * 256 + byte.toNat) 0

/-- The base-256 digits of a number, least significant first, without leading zeros. -/
def littleEndian (value : Nat) : Bytes :=
  -- Zero has no digits at all.
  if value = 0 then [] else UInt8.ofNat (value % 256) :: littleEndian (value / 256)

/-- The shortest big-endian octets of a number; zero is the empty sequence. -/
def ofNat (value : Nat) : Bytes := (littleEndian value).reverse

/-- The big-endian octets of a number in exactly `width` places, high digits dropped. -/
def bigEndian (width value : Nat) : Bytes :=
  -- Place `i` from the right holds the digit of weight 256 to the `i`.
  (List.range width).reverse.map fun place => UInt8.ofNat (value / Nat.pow 256 place % 256)

/-- The little-endian octets of a number in exactly `width` places, high digits dropped. -/
def leastFirst (width value : Nat) : Bytes := (bigEndian width value).reverse

/-- The natural number whose little-endian digits in base 256 are the octets. -/
def toNatLeastFirst (bytes : Bytes) : Nat := toNat bytes.reverse

/-- The UTF-8 octets of a text. -/
def ofText (text : String) : Bytes := text.toUTF8.data.toList

/-- The text whose UTF-8 octets these are, if they are well-formed UTF-8. -/
def toText? (bytes : Bytes) : Option String := String.fromUTF8? ⟨bytes.toArray⟩

/-- The octetwise exclusive or, as long as the shorter of the two. -/
def xor (left right : Bytes) : Bytes := List.zipWith (· ^^^ ·) left right

/-- Consecutive parts of the given length, the last of which may be shorter. -/
def chunks (size : Nat) (bytes : Bytes) : List Bytes :=
  -- Parts without octets would never use up the sequence.
  if size = 0 ∨ bytes = [] then [] else bytes.take size :: chunks size (bytes.drop size)
termination_by bytes.length
decreasing_by
  rename_i nontrivial
  have : bytes.length ≠ 0 := fun empty => nontrivial (.inr (List.length_eq_zero_iff.mp empty))
  simp; omega

/-- `count` copies of the zero octet. -/
def zeros (count : Nat) : Bytes := List.replicate count 0

/-- One more octet shifts the value by one place. -/
@[simp] theorem toNat_append_singleton (bytes : Bytes) (byte : UInt8) :
    toNat (bytes ++ [byte]) = toNat bytes * 256 + byte.toNat := by
  -- The fold meets the last octet last.
  simp [toNat]

/-- The octets of a number have that number as their value. -/
@[simp] theorem toNat_ofNat (value : Nat) : toNat (ofNat value) = value := by
  -- The digits are made from the least one on, which is the last one read.
  induction value using Nat.strongRecOn with
  | ind value ih =>
    unfold ofNat littleEndian
    split
    · next zero => simp [toNat, zero]
    · next nonzero =>
      have rest := ih (value / 256) (by omega)
      simp only [ofNat] at rest
      simp only [List.reverse_cons, toNat_append_singleton, rest, UInt8.toNat_ofNat']
      omega

/-- Octets in a fixed number of places are that many. -/
@[simp] theorem length_bigEndian (width value : Nat) : (bigEndian width value).length = width := by
  -- There is one octet for each place.
  simp [bigEndian]

end Bytes

/-- An octet sequence of a length fixed by its type. -/
structure FixedBytes (size : Nat) where
  /-- The octets, most significant first where they are read as a number. -/
  toBytes : Bytes
  /-- There are exactly `size` octets. -/
  length_toBytes : toBytes.length = size
  deriving DecidableEq

namespace FixedBytes

variable {size : Nat}

/-- The octets as a sequence of fixed length, if there are exactly that many. -/
def ofBytes? (bytes : Bytes) : Option (FixedBytes size) :=
  -- The length test is the whole condition.
  if exact : bytes.length = size then some ⟨bytes, exact⟩ else none

/-- The first octets of a sequence, with zeros behind them where it is too short. -/
def leftJustified (bytes : Bytes) : FixedBytes size :=
  -- Padding first and cutting second gives every length the right size.
  ⟨(bytes ++ Bytes.zeros size).take size, by simp [Bytes.zeros]⟩

/-- All octets are zero. -/
def zero : FixedBytes size := ⟨Bytes.zeros size, by simp [Bytes.zeros]⟩

/-- The last `size` octets of a sequence at least that long. -/
def suffix (bytes : Bytes) (enough : size ≤ bytes.length) : FixedBytes size :=
  -- Dropping the excess leaves exactly `size` octets.
  ⟨bytes.drop (bytes.length - size), by simp; omega⟩

/-- Whether every octet is zero. -/
def isZero (value : FixedBytes size) : Bool := value == zero

instance : Inhabited (FixedBytes size) := ⟨zero⟩

end FixedBytes

end Countersign
