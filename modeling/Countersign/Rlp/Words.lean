import Countersign.Rlp.Codec

/-! Items in octets and words of sixty-four bits. A sum or a difference that leaves its range has no
result, and neither has an octet or a part that a sequence does not have. -/

namespace Countersign.Rlp.Words

/-- The sum of two octets, unless it exceeds an octet. -/
def addOctets (left right : UInt8) : Option UInt8 :=
  -- A sum that wraps is no result.
  if left.toNat + right.toNat < Nat.pow 2 8 then some (left + right) else none

/-- The difference of two octets, unless it is below zero. -/
def subOctets (left right : UInt8) : Option UInt8 :=
  -- A difference that wraps is no result.
  if right.toNat ≤ left.toNat then some (left - right) else none

/-- The sum of two words, unless it exceeds a word. -/
def addWords (left right : UInt64) : Option UInt64 :=
  -- A sum that wraps is no result.
  if left.toNat + right.toNat < Nat.pow 2 64 then some (left + right) else none

/-- What follows the first octets of a sequence, if it has that many. -/
def behind (count : Nat) (data : Bytes) : Option Bytes :=
  -- The place may be the end, but not beyond it.
  if count ≤ data.length then some (data.drop count) else none

/-- The octets of a word from the first one on that is not zero. -/
def shortest (value : UInt64) : Option Bytes :=
  -- Eight zero bits in front are an octet that is left out.
  behind (value.toBitVec.clz.toNat / 8) (Bytes.bigEndian 8 value.toNat)

/-- The octets of a magnitude, of which zero has one. -/
def magnitude (value : Nat) : Bytes :=
  -- Only zero has a leading zero.
  if value = 0 then [0] else Bytes.ofNat value

/-- The word whose big-endian octets these are, if there are no more than eight. -/
def ofBytes (bytes : Bytes) : UInt64 :=
  -- Each octet shifts what stands before it up by its own width.
  bytes.foldl (fun value byte => value <<< 8 ||| byte.toUInt64) 0

/-- The header of an item of the given length, where `base` is the lead octet of the empty item. -/
def header (base : UInt8) (length : UInt64) : Option Bytes :=
  -- A short length is added to the base; of a long one the number of octets is added.
  if length ≤ UInt64.ofNat shortLimit then do
    return [← addOctets base length.toUInt8]
  else do
    let digits ← shortest length
    let lead ← addOctets base (UInt8.ofNat shortLimit)
    return (← addOctets lead (UInt8.ofNat digits.length)) :: digits

/-- The written form of an item. -/
def write : Item → Option Bytes
  | .octets content => do
    -- A single octet below the string base needs no header.
    if let [octet] := content then
      if octet < UInt8.ofNat stringBase then return [octet]
    return (← header (UInt8.ofNat stringBase) (UInt64.ofNat content.length)) ++ content
  | .list payload => do
    return (← header (UInt8.ofNat listBase) (UInt64.ofNat payload.length)) ++ payload

/-- The written form of a word: the string of its octets. -/
def writeWord (value : UInt64) : Option Bytes := do
  -- Leading zeros are counted and left out.
  write (.octets (← shortest value))

/-- The written form of an integer of any size: the string of its magnitude. -/
def writeInteger (value : Int) : ExceptT EncodeError Option Bytes := do
  -- Zero is the empty string, although its magnitude has an octet.
  if value < 0 then throw (.negativeInteger value)
  if value = 0 then write (.octets [])
  else write (.octets (magnitude value.natAbs))

/-- The part of the given length from a place on, which must end within a word and the data. -/
def slice (data : Bytes) (start length : UInt64) : Except DecodeError Bytes :=
  -- An end beyond a word is told from one beyond the data.
  match addWords start length with
  | none => .error .lengthOverflow
  | some stop =>
    if stop.toNat ≤ data.length then .ok ((data.take stop.toNat).drop start.toNat)
    else .error .unexpectedEnd

/-- The length that stands in `width` octets behind the lead octet. -/
def longLength (data : Bytes) (width : UInt8) : Except DecodeError UInt64 := do
  -- Leading zeros and lengths that fit a short header are refused.
  let digits ← slice data 1 width.toUInt64
  if digits.head? = some 0 then throw .nonCanonicalSize
  let length := ofBytes digits
  if length ≤ UInt64.ofNat shortLimit then throw .nonCanonicalSize
  return length

/-- The content of an item behind a long header, and the number of octets that both take. -/
def longContent (data : Bytes) (width : UInt8) : ExceptT DecodeError Option (Bytes × UInt64) := do
  let length ← longLength data width
  let start ← addWords 1 width.toUInt64
  let content ← slice data start length
  return (content, ← addWords start length)

/-- The item that data with the given lead octet begins with, and the number of octets it takes. -/
def first (data : Bytes) (lead : UInt8) : ExceptT DecodeError Option (Item × UInt64) := do
  -- The lead octet alone decides between the five forms.
  if lead ≤ 0x7F then
    return (.octets (← slice data 0 1), 1)
  else if lead ≤ 0xB7 then
    let length := (← subOctets lead (UInt8.ofNat stringBase)).toUInt64
    let content ← slice data 1 length
    if length = 1 then
      let octet ← (content[0]? : Option UInt8)
      if octet < UInt8.ofNat stringBase then throw .nonCanonicalSize
    return (.octets content, ← addWords 1 length)
  else if lead ≤ 0xBF then
    let above ← subOctets lead (UInt8.ofNat stringBase)
    let (content, consumed) ← longContent data (← subOctets above (UInt8.ofNat shortLimit))
    return (.octets content, consumed)
  else if lead ≤ 0xF7 then
    let length := (← subOctets lead (UInt8.ofNat listBase)).toUInt64
    let payload ← slice data 1 length
    return (.list payload, ← addWords 1 length)
  else
    let above ← subOctets lead (UInt8.ofNat listBase)
    let (payload, consumed) ← longContent data (← subOctets above (UInt8.ofNat shortLimit))
    return (.list payload, consumed)

end Countersign.Rlp.Words
