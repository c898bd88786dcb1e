import Countersign.Bytes

/-! Words of sixty-four bits: turning their bits, and their octets in either order. -/

namespace Countersign.Hash.Word

/-- A word with its bits turned to the left; shifts count modulo the width. -/
@[inline] def rotateLeft (word count : UInt64) : UInt64 :=
  -- What leaves on the left comes back on the right.
  (word <<< count) ||| (word >>> (64 - count))

/-- A word with its bits turned to the right; shifts count modulo the width. -/
@[inline] def rotateRight (word count : UInt64) : UInt64 :=
  -- What leaves on the right comes back on the left.
  (word >>> count) ||| (word <<< (64 - count))

/-- The words whose octets stand one behind the other, least significant first. -/
def ofBytesLeastFirst (bytes : Bytes) : List UInt64 :=
  -- Every eight octets make a word.
  (Bytes.chunks 8 bytes).map fun part => UInt64.ofNat (Bytes.toNatLeastFirst part)

/-- The words whose octets stand one behind the other, most significant first. -/
def ofBytes (bytes : Bytes) : List UInt64 :=
  -- Every eight octets make a word.
  (Bytes.chunks 8 bytes).map fun part => UInt64.ofNat (Bytes.toNat part)

/-- The octets of words, least significant first within each word. -/
def toBytesLeastFirst (words : List UInt64) : Bytes :=
  -- Each word gives eight octets.
  words.flatMap fun word => Bytes.leastFirst 8 word.toNat

/-- The octets of words, most significant first within each word. -/
def toBytes (words : List UInt64) : Bytes :=
  -- Each word gives eight octets.
  words.flatMap fun word => Bytes.bigEndian 8 word.toNat

end Countersign.Hash.Word
