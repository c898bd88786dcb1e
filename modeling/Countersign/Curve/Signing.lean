import Countersign.Curve.Point
import Countersign.Hash.Sha512

/-! Ed25519: public keys, signatures, and the test of a signature. -/

namespace Countersign.Curve

/-- The order of the base point. -/
def groupOrder : Nat := Nat.pow 2 252 + 27742317777372353535851937790883648493

/-- The factor and the hidden half that a seed expands to. -/
def expandSeed (seed : FixedBytes 32) : Nat × Bytes :=
  -- Of the first half some bits are fixed; the second half stays as it is.
  let digest := (Hash.sha512 seed.toBytes).toBytes
  let raw := Bytes.toNatLeastFirst (digest.take 32)
  let factor := raw % Nat.pow 2 254 / 8 * 8 + Nat.pow 2 254
  (factor, digest.drop 32)

/-- The public key of a seed. -/
def publicKey (seed : FixedBytes 32) : FixedBytes 32 :=
  -- The key is the multiple of the base point by the expanded factor.
  (Point.multiply (expandSeed seed).1 Point.base).toBytes

/-- The number of a digest of octets, modulo the group order. -/
def challenge (parts : List Bytes) : Nat :=
  -- The parts are hashed one behind the other.
  Bytes.toNatLeastFirst (Hash.sha512 parts.flatten).toBytes % groupOrder

/-- The signature of a message under a seed, as sixty-four octets. -/
def sign (seed : FixedBytes 32) (message : Bytes) : Bytes :=
  -- The nonce comes from the hidden half, so signing needs no randomness.
  let (factor, hidden) := expandSeed seed
  let key := (publicKey seed).toBytes
  let nonce := challenge [hidden, message]
  let commitment := (Point.multiply nonce Point.base).toBytes.toBytes
  let share := challenge [commitment, key, message]
  commitment ++ Bytes.leastFirst 32 ((nonce + share * factor) % groupOrder)

/-- Whether sixty-four octets are a signature of a message under a public key. -/
def verify (key : FixedBytes 32) (message signature : Bytes) : Bool :=
  -- The commitment must be the very octets of the recomputed point.
  if signature.length ≠ 64 then false
  else
    let commitment := signature.take 32
    let response := Bytes.toNatLeastFirst (signature.drop 32)
    if groupOrder ≤ response then false
    else
      match Point.ofBytes? key with
      | none => false
      | some point =>
        let share := challenge [commitment, key.toBytes, message]
        let expected := Point.add (Point.multiply response Point.base)
          (Point.multiply share (Point.negate point))
        expected.toBytes.toBytes == commitment

end Countersign.Curve
