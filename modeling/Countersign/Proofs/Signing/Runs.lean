import Countersign.Proofs.Transaction.Agreement
import Countersign.Proofs.Transaction.Preimage
import Countersign.Signing.Session

/-! Runs of operations on signatures: whatever the signers answer and wherever a run fails, nothing
but slots changes, so what is signed of a transaction is the same before and after. -/

namespace Countersign

/-- One operation on the signatures of a transaction, with the signers it asks. -/
inductive Operation (σ : Type) where
  /-- A signature goes into the slots of an address. -/
  | setSignature (address : Address) (signature : Signature)
  /-- All slots are emptied. -/
  | clearSignatures
  /-- One signer signs in a role. -/
  | sign (chain : String) (role : Role) (signer : Signer σ)
  /-- One signer signs in a role, and another one can replace it. -/
  | signWithFallback (chain : String) (role : Role) (primary fallback : Signer σ)
  /-- Many signers sign in turn. -/
  | signAll (chain : String) (signers : List (Signer σ))

namespace Transaction

variable {σ : Type}

/-- The transaction after an operation that succeeded or failed, with the state of the signers. -/
def perform (tx : Transaction) (state : σ) : Operation σ → Transaction × σ
  | .setSignature address signature => (tx.setSignature address signature, state)
  | .clearSignatures => (tx.unsigned, state)
  | .sign chain role signer => (tx.sign chain role signer state).2
  | .signWithFallback chain role primary fallback =>
    (tx.signWithFallback chain role primary fallback state).2
  | .signAll chain signers => (tx.signAll chain state signers).2

/-- The transaction after operations in turn, each one on what the one before it has left. -/
def run (tx : Transaction) (state : σ) : List (Operation σ) → Transaction × σ
  | [] => (tx, state)
  | operation :: rest =>
    -- A failed operation does not end the run.
    let (changed, after) := tx.perform state operation
    changed.run after rest

/-- Attaching a signature changes nothing but slots. -/
theorem unsigned_attach (tx : Transaction) (role : Role) (answer : Signed) :
    (tx.attach role answer).1.unsigned = tx.unsigned := by
  unfold attach
  -- The parties of a payment have one slot each, and an endorser may have many.
  split
  · split <;> rfl
  · split <;> rfl
  · exact unsigned_setSignature tx answer.address answer.signature
  · rfl

/-- Signing changes nothing but slots, also when it fails. -/
theorem unsigned_sign (tx : Transaction) (chain : String) (role : Role) (signer : Signer σ)
    (state : σ) : (tx.sign chain role signer state).2.1.unsigned = tx.unsigned := by
  unfold sign
  -- Without octets or an answer the transaction is handed back as it was.
  split
  · rfl
  · split
    · rfl
    · exact unsigned_attach tx role _

/-- Signing with a second signer in reserve changes nothing but slots. -/
theorem unsigned_signWithFallback (tx : Transaction) (chain : String) (role : Role)
    (primary fallback : Signer σ) (state : σ) :
    (tx.signWithFallback chain role primary fallback state).2.1.unsigned = tx.unsigned := by
  have first := unsigned_sign tx chain role primary state
  unfold signWithFallback
  split
  · rename_i error same after failed
    rw [failed] at first
    -- The second signer, if it is asked, signs what the first has left.
    split
    · exact (unsigned_sign same chain role fallback after).trans first
    · exact first
  · exact first

/-- Signing by many in turn changes nothing but slots, wherever it ends. -/
theorem unsigned_signAll (tx : Transaction) (chain : String) (state : σ)
    (signers : List (Signer σ)) :
    (tx.signAll chain state signers).2.1.unsigned = tx.unsigned := by
  -- Each signer signs what the signers before it have left.
  induction signers generalizing tx state with
  | nil => rfl
  | cons signer rest ih =>
    have first := unsigned_sign tx chain .endorser signer state
    unfold signAll
    split
    · rename_i error same after failed
      rw [failed] at first
      exact first
    · rename_i outcome filled after signed
      rw [signed] at first
      exact (ih filled after).trans first

/-- One operation changes nothing but slots. -/
theorem unsigned_perform (tx : Transaction) (state : σ) (operation : Operation σ) :
    (tx.perform state operation).1.unsigned = tx.unsigned := by
  -- One lemma for each operation.
  cases operation with
  | setSignature address signature => exact unsigned_setSignature tx address signature
  | clearSignatures => exact unsigned_unsigned tx
  | sign chain role signer => exact unsigned_sign tx chain role signer state
  | signWithFallback chain role primary fallback =>
    exact unsigned_signWithFallback tx chain role primary fallback state
  | signAll chain signers => exact unsigned_signAll tx chain state signers

/-- A run changes nothing but slots, however long it is. -/
theorem unsigned_run (tx : Transaction) (state : σ) (operations : List (Operation σ)) :
    (tx.run state operations).1.unsigned = tx.unsigned := by
  -- The state of the signers changes with each step, so it is arbitrary here.
  induction operations generalizing tx state with
  | nil => rfl
  | cons operation rest ih =>
    have rested := ih (tx.perform state operation).1 (tx.perform state operation).2
    exact rested.trans (unsigned_perform tx state operation)

/-- After any run of operations the transaction agrees with the one before in everything but its
signatures, and its signers still sign the same octets; of a payment the target does so as long as
the source's slot holds what it held. -/
theorem agrees_run (tx : Transaction) (state : σ) (operations : List (Operation σ)) :
    let final := (tx.run state operations).1
    final.unsigned = tx.unsigned ∧ final.Agrees tx ∧ final.kind = tx.kind ∧
      final.signers = tx.signers ∧ (∀ chain, final.signBytes chain = tx.signBytes chain) ∧
      ∀ body, tx = .servicePayment body →
        ∃ signed, final = .servicePayment signed ∧
          (∀ chain, signed.sourceSignBytes chain = body.sourceSignBytes chain) ∧
          (signed.source.signature = body.source.signature →
            ∀ chain, signed.targetSignBytes chain = body.targetSignBytes chain) := by
  intro final
  -- The emptied transaction is the invariant, and the rest follows from it.
  have same : final.unsigned = tx.unsigned := unsigned_run tx state operations
  have agree : final.Agrees tx := unsigned_eq_unsigned_iff.mp same
  refine ⟨same, agree, ?_, ?_, ?_, ?_⟩
  · rw [← kind_unsigned final, same, kind_unsigned]
  · rw [← signers_unsigned final, same, signers_unsigned]
  · intro chain
    rw [signBytes, same, signBytes]
  · intro body payment
    rw [payment] at agree
    obtain ⟨signed, signedPayment⟩ := agree.exists_servicePayment
    rw [signedPayment] at agree
    refine ⟨signed, signedPayment, ?_, ?_⟩
    · intro chain
      -- The source covers no signature at all.
      rw [ServicePayment.sourceSignBytes, ServicePayment.sourceView_eq_of_agrees agree,
        ServicePayment.sourceSignBytes]
    -- The target covers the source's signature, and so needs it as it was.
    · intro untouched chain
      rw [ServicePayment.targetSignBytes, ServicePayment.targetView_eq_of_agrees agree untouched,
        ServicePayment.targetSignBytes]

/-- A device that is busy, a target that signs in its place, endorsers that a payment does not have,
and a source that refuses. -/
def troubledOperations : List (Operation Unit) :=
  [.signWithFallback "net" .serviceTarget (.constant (.error .busy))
      (.constant (.ok ⟨.zero, ⟨[7]⟩⟩)),
    .signAll "net" [.constant (.ok ⟨.zero, ⟨[8]⟩⟩)],
    .sign "net" .serviceSource (.constant (.error .rejected))]

/-- Of a payment these operations change the target's slot alone, and the target would sign the
same octets again. -/
theorem agrees_run_targetSigned :
    ((Transaction.servicePayment Preimage.targetSigned).run () troubledOperations).1 =
        .servicePayment { Preimage.targetSigned with
          target := Preimage.targetSigned.target.sign ⟨[7]⟩ } ∧
      ∃ signed, ((Transaction.servicePayment Preimage.targetSigned).run ()
          troubledOperations).1 = .servicePayment signed ∧
        signed.source.signature = Preimage.targetSigned.source.signature ∧
        ∀ chain, signed.targetSignBytes chain = Preimage.targetSigned.targetSignBytes chain := by
  -- The whole run is computed, with signers that fail and one that signs.
  have changed : ((Transaction.servicePayment Preimage.targetSigned).run ()
      troubledOperations).1 = .servicePayment { Preimage.targetSigned with
        target := Preimage.targetSigned.target.sign ⟨[7]⟩ } := by decide +kernel
  obtain ⟨-, -, -, -, -, payments⟩ :=
    agrees_run (.servicePayment Preimage.targetSigned) () troubledOperations
  obtain ⟨signed, final, -, targets⟩ := payments Preimage.targetSigned rfl
  -- None of the operations has reached the source's slot.
  have untouched : signed.source.signature = Preimage.targetSigned.source.signature := by
    rw [changed] at final
    cases final
    rfl
  exact ⟨changed, signed, final, untouched, targets untouched⟩

end Transaction

end Countersign
