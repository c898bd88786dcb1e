import Countersign.Signing.Role

/-! Signing a transaction with one signer, with a second one in reserve, or with many in turn. -/

namespace Countersign

/-- What came of one signature. -/
structure Outcome where
  /-- The address that the signer reported. -/
  address : Address
  /-- Whether a slot took the signature. -/
  attached : Bool
  deriving DecidableEq

namespace Transaction

variable {σ : Type}

/-- The transaction signed in a role, with what came of it and the state of the signer. -/
def sign (tx : Transaction) (chain : String) (role : Role) (signer : Signer σ) (state : σ) :
    Except SigningError Outcome × Transaction × σ :=
  -- The signer is not asked before the octets are known to exist.
  match tx.roleBytes chain role with
  | .error error => (.error error, tx, state)
  | .ok bytes =>
    match signer bytes state with
    | (.error error, after) => (.error (.signer error), tx, after)
    | (.ok signed, after) =>
      let (filled, attached) := tx.attach role signed
      (.ok ⟨signed.address, attached⟩, filled, after)

/-- The same with a second signer, which is asked when the first fails but can be replaced. -/
def signWithFallback (tx : Transaction) (chain : String) (role : Role)
    (primary fallback : Signer σ) (state : σ) : Except SigningError Outcome × Transaction × σ :=
  -- Only errors of the signer itself can be made up for.
  match tx.sign chain role primary state with
  | (.error (.signer error), same, after) =>
    if error.isRecoverable then same.sign chain role fallback after
    else (.error (.signer error), same, after)
  | other => other

/-- The transaction signed by endorsers in turn; the first error ends it and undoes nothing. -/
def signAll (tx : Transaction) (chain : String) (state : σ) :
    List (Signer σ) → Except SigningError (List Outcome) × Transaction × σ
  | [] => (.ok [], tx, state)
  | signer :: rest =>
    -- Signatures attached before an error stay.
    match tx.sign chain .endorser signer state with
    | (.error error, same, after) => (.error error, same, after)
    | (.ok outcome, filled, after) =>
      let (outcomes, final, last) := filled.signAll chain after rest
      (outcomes.map (outcome :: ·), final, last)

end Transaction

end Countersign
