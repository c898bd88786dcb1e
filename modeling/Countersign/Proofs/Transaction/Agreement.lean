import Mathlib.Data.List.Forall2
import Countersign.Proofs.Transaction.Slots

/-! Transactions that agree in every field but their signatures: they are those that become equal
when all slots are emptied, and all that is signed of them is the same. -/

namespace Countersign

/-- Two endorsements are equal but for their slots. -/
def Endorsement.Agrees (left right : Endorsement) : Prop :=
  left.address = right.address ∧ left.amount = right.amount ∧ left.sequence = right.sequence

/-- Endorsements become equal when their slots are emptied exactly when nothing else differs. -/
theorem Endorsement.clear_eq_clear_iff {left right : Endorsement} :
    left.clear = right.clear ↔ left.Agrees right := by
  cases left
  cases right
  -- The slot is the one field that emptying makes equal.
  simp [clear, sign, Agrees]

/-- Endorsements that agree and hold the same in their slots are equal. -/
theorem Endorsement.eq_of_agrees {left right : Endorsement} (agree : left.Agrees right)
    (same : left.signature = right.signature) : left = right := by
  obtain ⟨address, amount, sequence⟩ := agree
  -- Agreeing leaves out the slot only.
  cases left
  cases right
  simp only at address amount sequence same
  rw [address, amount, sequence, same]

/-- Lists of endorsements become equal exactly when they agree place by place. -/
theorem Endorsement.map_clear_eq_iff {left right : List Endorsement} :
    left.map clear = right.map clear ↔ List.Forall₂ Agrees left right := by
  -- Equal lists are equal place by place.
  rw [← List.forall₂_eq_eq_eq, List.forall₂_map_left_iff, List.forall₂_map_right_iff]
  simp only [clear_eq_clear_iff]

namespace Transaction

/-- Two transactions are of one kind and equal in every field but the slots of their
endorsements. -/
def Agrees : Transaction → Transaction → Prop
  | .issuance left, .issuance right =>
    left.proposer.Agrees right.proposer ∧ left.payouts = right.payouts ∧
      left.blockHeight = right.blockHeight
  | .slash left, .slash right =>
    left.proposer.Agrees right.proposer ∧ left.slashedAddress = right.slashedAddress ∧
      left.reserveSequence = right.reserveSequence ∧ left.proof = right.proof
  | .transfer left, .transfer right =>
    left.fee = right.fee ∧
      List.Forall₂ Endorsement.Agrees left.endorsements right.endorsements ∧
      left.payouts = right.payouts
  | .reserveFund left, .reserveFund right =>
    left.fee = right.fee ∧ left.source.Agrees right.source ∧
      left.collateral = right.collateral ∧ left.resourceIds = right.resourceIds ∧
      left.duration = right.duration
  | .releaseFund left, .releaseFund right =>
    left.fee = right.fee ∧ left.source.Agrees right.source ∧
      left.reserveSequence = right.reserveSequence
  | .servicePayment left, .servicePayment right =>
    left.fee = right.fee ∧ left.source.Agrees right.source ∧ left.target.Agrees right.target ∧
      left.paymentSequence = right.paymentSequence ∧
      left.reserveSequence = right.reserveSequence ∧ left.resourceId = right.resourceId
  | .splitRule left, .splitRule right =>
    left.fee = right.fee ∧ left.resourceId = right.resourceId ∧
      left.initiator.Agrees right.initiator ∧ left.splits = right.splits ∧
      left.duration = right.duration
  | .smartContract left, .smartContract right =>
    left.caller.Agrees right.caller ∧ left.callee = right.callee ∧
      left.gasLimit = right.gasLimit ∧ left.gasPrice = right.gasPrice ∧ left.data = right.data
  | .stakeDeposit left, .stakeDeposit right =>
    left.fee = right.fee ∧
      List.Forall₂ Endorsement.Agrees left.endorsements right.endorsements ∧
      left.payouts = right.payouts
  | _, _ => False

/-- Transactions become equal when all slots are emptied exactly when they agree. -/
theorem unsigned_eq_unsigned_iff {left right : Transaction} :
    left.unsigned = right.unsigned ↔ left.Agrees right := by
  -- Transactions of two kinds neither agree nor become equal; the others are compared by fields.
  cases left <;> cases right <;>
    simp [unsigned, mapEndorsements, Agrees, Endorsement.clear_eq_clear_iff,
      Endorsement.map_clear_eq_iff]

/-- Only a payment agrees with a payment. -/
theorem Agrees.exists_servicePayment {tx : Transaction} {body : ServicePayment}
    (agree : tx.Agrees (.servicePayment body)) : ∃ other, tx = .servicePayment other := by
  cases tx with
  | servicePayment other => exact ⟨other, rfl⟩
  -- Transactions of two kinds never agree.
  | _ => exact False.elim agree

end Transaction

namespace ServicePayment

variable {left right : ServicePayment}

/-- The source signs the same of payments that agree. -/
theorem sourceView_eq_of_agrees
    (agree : (Transaction.servicePayment left).Agrees (.servicePayment right)) :
    left.sourceView = right.sourceView := by
  obtain ⟨-, source, target, payment, reserve, resource⟩ := agree
  -- Of the two parties the voucher has only fields in which they agree.
  obtain ⟨sourceAddress, sourceAmount, -⟩ := source
  obtain ⟨targetAddress, -, -⟩ := target
  simp only [sourceView, sourceAddress, sourceAmount, targetAddress, payment, reserve, resource]

/-- The target signs the same of payments that agree if their sources' slots do as well. -/
theorem targetView_eq_of_agrees
    (agree : (Transaction.servicePayment left).Agrees (.servicePayment right))
    (same : left.source.signature = right.source.signature) :
    left.targetView = right.targetView := by
  obtain ⟨fee, source, target, payment, reserve, resource⟩ := agree
  -- With its slot, the source's part is the same as a whole.
  have sources : left.source = right.source := Endorsement.eq_of_agrees source same
  have targets : left.target.clear = right.target.clear :=
    Endorsement.clear_eq_clear_iff.mpr target
  simp only [targetView, fee, sources, targets, payment, reserve, resource]

end ServicePayment

end Countersign
