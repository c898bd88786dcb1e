import Countersign.Address.Checksum
import Countersign.Curve.Signing

/-! Key pairs, signatures, and digests of messages. -/

namespace Countersign

/-- A digest of thirty-two octets. -/
abbrev Digest := FixedBytes 32

namespace Digest

/-- The digest in lowercase digits behind `0x`. -/
def display (digest : Digest) : String := Hex.encodeMarked digest.toBytes

/-- A short form that shows the first four octets. -/
def summary (digest : Digest) : String := "TxHash(" ++ Hex.encode (digest.toBytes.take 4) ++ ")"

end Digest

/-- A signature value; the empty one stands for a slot that is not signed. -/
structure Signature where
  /-- The octets, whose number is not fixed. -/
  toBytes : Bytes
  deriving DecidableEq, Repr

namespace Signature

/-- The value of a slot that is not signed. -/
def empty : Signature := ⟨[]⟩

/-- Whether the slot is not signed; a signature of zeros counts as one. -/
def isEmpty (signature : Signature) : Bool := signature.toBytes.isEmpty

/-- The value in words. -/
def summary (signature : Signature) : String :=
  -- An unsigned slot has no digits to show.
  if signature.isEmpty then "Signature(empty)"
  else "Signature(" ++ Hex.encodeMarked signature.toBytes ++ ")"

instance : Inhabited Signature := ⟨empty⟩

/-- The shapes in which signatures are handed over. -/
inductive Given where
  /-- Octets that are kept. -/
  | vector (octets : Bytes)
  /-- A part of a buffer, which is copied. -/
  | slice (buffer : Bytes) (start length : Nat)
  /-- Exactly sixty-four octets. -/
  | array (octets : FixedBytes 64)
  /-- A signature. -/
  | wrapped (signature : Signature)
  deriving DecidableEq

namespace Given

/-- The octets that are handed over. -/
def octets : Given → Bytes
  | .vector octets => octets
  | .slice buffer start length => (buffer.drop start).take length
  | .array octets => octets.toBytes
  | .wrapped signature => signature.toBytes

/-- The signature that is made of what is handed over. -/
def toSignature : Given → Signature
  | .vector octets => ⟨octets⟩
  | .slice buffer start length => ⟨(buffer.drop start).take length⟩
  | .array octets => ⟨octets.toBytes⟩
  | .wrapped signature => signature

end Given

end Signature

/-- A private key with the public key that belongs to it. -/
structure KeyPair where
  /-- The private key. -/
  seed : FixedBytes 32
  /-- The public key, which others check signatures with. -/
  key : FixedBytes 32
  deriving DecidableEq

namespace KeyPair

/-- The key pair of given secret octets. -/
def ofSeed (seed : FixedBytes 32) : KeyPair := ⟨seed, Curve.publicKey seed⟩

/-- The key pair of a readable secret, whose digest is the private key. -/
def ofSecret (secret : String) : KeyPair := ofSeed (Hash.keccak256 (Bytes.ofText secret))

/-- The address of the public key. -/
def address (pair : KeyPair) : Address := Address.ofPublicKey pair.key

end KeyPair

namespace Signature

/-- The signature of a message: its digest is what is signed. -/
def ofMessage (message : Bytes) (seed : FixedBytes 32) : Signature :=
  -- Messages of any length give sixty-four octets.
  ⟨Curve.sign seed (Hash.keccak256 message).toBytes⟩

/-- Whether a signature of a message is valid under a public key. -/
def isValid (message : Bytes) (signature : Signature) (key : FixedBytes 32) : Bool :=
  -- Signatures of another length are never valid.
  Curve.verify key (Hash.keccak256 message).toBytes signature.toBytes

end Signature

end Countersign
