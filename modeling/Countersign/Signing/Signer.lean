import Countersign.Transaction.Preimage

/-! Signers: what they are given, what they answer, and how they fail. -/

namespace Countersign

/-- Why a signer gives no signature. -/
inductive SignerError where
  /-- No answer came in time. -/
  | timeout (milliseconds : UInt64)
  /-- The request was refused on the device. -/
  | rejected
  /-- The device is no longer connected. -/
  | disconnected
  /-- There is no device. -/
  | deviceNotFound
  /-- The device still works on a call that nobody waits for any more. -/
  | busy
  /-- The device failed in its own words. -/
  | driver (wording : String)
  deriving DecidableEq, Repr

namespace SignerError

/-- The wording of an error. -/
def message : SignerError → String
  | .timeout milliseconds =>
    "signer did not respond within " ++ toString milliseconds.toNat ++ " ms"
  | .rejected => "signing request rejected on device"
  | .disconnected => "device disconnected"
  | .deviceNotFound => "no hardware device found"
  | .busy => "device still busy with a call that timed out"
  | .driver wording => "driver error: " ++ wording

/-- Whether another signer may be tried; a refusal is final. -/
def isRecoverable : SignerError → Bool
  | .timeout _ => true
  | .disconnected => true
  | .deviceNotFound => true
  | .busy => true
  | .rejected => false
  | .driver _ => false

end SignerError

/-- The address a signer signed for, with its signature. -/
structure Signed where
  /-- The address that the signer reports. -/
  address : Address
  /-- The signature. -/
  signature : Signature
  deriving DecidableEq

/-- A signer takes octets to a signature or an error, and may change a state that it lives in. -/
abbrev Signer (σ : Type) := Bytes → σ → Except SignerError Signed × σ

namespace Signer

variable {σ : Type}

/-- A signer that always gives the same answer. -/
def constant (answer : Except SignerError Signed) : Signer σ := fun _ state => (answer, state)

/-- A signer that holds a key pair in memory. -/
def ofKeyPair (pair : KeyPair) : Signer σ := fun bytes state =>
  -- The reported address is the key's own.
  (.ok ⟨pair.address, .ofMessage bytes pair.seed⟩, state)

/-- A signer that also writes its name and the octets it is given behind a list of calls. -/
def logged {ι : Type} (name : ι) (signer : Signer σ) : Signer (σ × List (ι × Bytes)) :=
  fun bytes (state, calls) =>
    -- The answer is the signer's own.
    let (answer, after) := signer bytes state
    (answer, after, calls ++ [(name, bytes)])

end Signer

/-- A local signer in words, without its private key. -/
def KeyPair.summary (pair : KeyPair) : String :=
  -- The braces enclose what is shown.
  "LocalSigner \x7b address: Address(" ++ pair.address.display ++ "), .. \x7d"

end Countersign
