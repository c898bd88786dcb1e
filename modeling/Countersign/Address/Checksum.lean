import Countersign.Address
import Countersign.Hash.Keccak

/-! Addresses of public keys, and spellings whose letter case is a checksum. -/

namespace Countersign.Address

/-- The address of a public key: the last twenty octets of its digest. -/
def ofPublicKey (key : FixedBytes 32) : Address :=
  -- A digest has thirty-two octets, which is enough.
  let digest := Hash.keccak256 key.toBytes
  FixedBytes.suffix digest.toBytes (by simp [digest.length_toBytes])

/-- Digits whose letters are capitals where the digest has a digit of at least eight. -/
def checksumDigits (address : Address) : List Char :=
  -- The digest is taken over the lowercase digits themselves.
  let lower := Hex.digits address.toBytes
  let digest := (Hash.keccak256 (lower.map fun digit => UInt8.ofNat digit.toNat)).toBytes
  let halves := digest.flatMap fun octet => [octet.toNat / 16, octet.toNat % 16]
  List.zipWith (fun digit half => if 8 ≤ half then digit.toUpper else digit) lower halves

/-- The spelling of an address with its checksum. -/
def displayChecksum (address : Address) : String :=
  -- The mark is not part of the checksum.
  "0x" ++ String.ofList (checksumDigits address)

/-- The address that a text spells, where letters of both cases must form the checksum. -/
def parseChecksum (text : String) : Except Fault Address := do
  -- Letters of one case carry no checksum.
  let address ← parse text
  let digits := (bareDigits text).toList
  if digits.any Char.isLower && digits.any Char.isUpper && digits != checksumDigits address then
    throw (.invalidText ("bad checksum: " ++ text))
  return address

end Countersign.Address
