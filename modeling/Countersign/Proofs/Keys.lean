import Countersign.Keys
import Countersign.Proofs.Hash.Keccak
import Countersign.Proofs.Hash.Sha512

/-! Signatures that key pairs make: their length, and what is left to check under the pair's own
public key, with all digests in the form that is quick to compute. -/

namespace Countersign

namespace Curve

open Hash.Sha512

/-- Thirty-two octets and a number in thirty-two places are sixty-four octets. -/
@[simp] theorem length_sign (seed : FixedBytes 32) (message : Bytes) :
    (sign seed message).length = 64 := by
  -- The commitment is a point, and the response is written in thirty-two places.
  simp [sign, FixedBytes.length_toBytes, Bytes.leastFirst]

/-- What a seed expands to, with the digest taken word by word. -/
def expandWords (seed : FixedBytes 32) : Nat × Bytes :=
  let digest := (Words.digest seed.toBytes).toBytes
  let raw := Bytes.toNatLeastFirst (digest.take 32)
  let factor := raw % Nat.pow 2 254 / 8 * 8 + Nat.pow 2 254
  (factor, digest.drop 32)

/-- A seed expands to the same either way. -/
theorem expandSeed_eq (seed : FixedBytes 32) : expandSeed seed = expandWords seed := by
  -- Only the digest is taken in another way.
  rw [expandSeed, expandWords, Hash.sha512_eq_digest]

/-- The number of a digest of octets, with the digest taken word by word. -/
def challengeWords (parts : List Bytes) : Nat :=
  Bytes.toNatLeastFirst (Words.digest parts.flatten).toBytes % groupOrder

/-- The number is the same either way. -/
theorem challenge_eq (parts : List Bytes) : challenge parts = challengeWords parts := by
  -- Here as well only the digest is taken in another way.
  rw [challenge, challengeWords, Hash.sha512_eq_digest]

/-- What is left to check of a seed's signature under the seed's own public key: whether the
commitment is the point that comes out of the response. -/
def ownCheck (seed : FixedBytes 32) (message : Bytes) : Bool :=
  let factor := (expandWords seed).1
  let key := (Point.multiply factor Point.base).toBytes
  let nonce := challengeWords [(expandWords seed).2, message]
  let commitment := (Point.multiply nonce Point.base).toBytes.toBytes
  let share := challengeWords [commitment, key.toBytes, message]
  -- A `match` would be computed, over an unknown message, wherever two of these are compared.
  (Point.ofBytes? key).any fun point =>
    let response := (nonce + share * factor) % groupOrder
    let expected := Point.add (Point.multiply response Point.base)
      (Point.multiply share (Point.negate point))
    expected.toBytes.toBytes == commitment

/-- A response is read back as the number that was written, and it is below the group order. -/
theorem verify_sign (seed : FixedBytes 32) (message : Bytes) :
    verify (publicKey seed) message (sign seed message) = ownCheck seed message := by
  have positive : 0 < groupOrder := by decide
  have small : groupOrder < 256 ^ 32 := by decide
  have readBack (value : Nat) : Bytes.toNatLeastFirst
      (Bytes.leastFirst 32 (value % groupOrder)) = value % groupOrder := by
    rw [Bytes.toNatLeastFirst, Bytes.leastFirst, List.reverse_reverse, Bytes.toNat_bigEndian]
    exact Nat.lt_trans (Nat.mod_lt value positive) small
  have below (value : Nat) : ¬ groupOrder ≤ value % groupOrder :=
    Nat.not_le.mpr (Nat.mod_lt value positive)
  have full (point : Point) : point.toBytes.toBytes.length = 32 := point.toBytes.length_toBytes
  have length : ¬ (sign seed message).length ≠ 64 := not_not_intro (length_sign seed message)
  rw [verify, if_neg length]
  -- The commitment and the response are cut apart again, and only the point is left.
  simp only [sign, List.take_left' (full _), List.drop_left' (full _), readBack, below, if_false,
    publicKey, expandSeed_eq, challenge_eq, ownCheck]
  generalize Point.ofBytes? _ = found
  cases found with
  | none => rw [Option.any_none]
  | some point => rw [Option.any_some]

end Curve

/-- The address of a seed's public key, with both digests in the form that is quick to compute. -/
def KeyPair.addressWords (seed : FixedBytes 32) : Address :=
  let key := (Curve.Point.multiply (Curve.expandWords seed).1 Curve.Point.base).toBytes
  let digest := Hash.Keccak.Rows.digest key.toBytes
  FixedBytes.suffix digest.toBytes (by simp [digest.length_toBytes])

/-- The address is the same either way. -/
theorem KeyPair.address_ofSeed (seed : FixedBytes 32) :
    (ofSeed seed).address = addressWords seed := by
  -- One digest is of the seed, and the other of the public key.
  simp only [address, ofSeed, Curve.publicKey, Curve.expandSeed_eq, Address.ofPublicKey,
    Hash.keccak256_eq_digest, addressWords]

namespace Signature

/-- The signature of a message fills a slot. -/
theorem isEmpty_ofMessage (message : Bytes) (seed : FixedBytes 32) :
    (ofMessage message seed).isEmpty = false := by
  have length := Curve.length_sign seed (Hash.keccak256 message).toBytes
  cases signed : Curve.sign seed (Hash.keccak256 message).toBytes with
  -- A signature without octets would not have sixty-four.
  | nil =>
    rw [signed] at length
    cases length
  | cons octet rest => simp [isEmpty, ofMessage, signed]

/-- A pair's signature of a message is valid under its own key if the check that is left passes. -/
theorem isValid_ofMessage {pair : KeyPair} (own : pair.key = Curve.publicKey pair.seed)
    (message : Bytes) : isValid message (.ofMessage message pair.seed) pair.key =
      Curve.ownCheck pair.seed (Hash.Keccak.Rows.digest message).toBytes := by
  -- What is signed is the digest of the message.
  have check := Curve.verify_sign pair.seed (Hash.keccak256 message).toBytes
  rw [← own, Hash.keccak256_eq_digest] at check
  rw [isValid, ofMessage, Hash.keccak256_eq_digest]
  exact check

end Signature

end Countersign
