import Mathlib.Data.List.Nodup
import Countersign.Proofs.Transaction.Slots
import Countersign.Signing.Signer

/-! Signatures that go into a transaction one behind the other: those of different addresses do not
disturb one another, so their order makes no difference and each could have been the last. -/

namespace Countersign.Transaction

variable {tx : Transaction} {answers : List Signed}

/-- The transaction with each signature, in turn, in the slots of its address. -/
def setSignatures (tx : Transaction) (answers : List Signed) : Transaction :=
  answers.foldl (fun filled answer => filled.setSignature answer.address answer.signature) tx

/-- Filling slots in turn disappears when all of them are emptied. -/
@[simp] theorem unsigned_setSignatures (tx : Transaction) (answers : List Signed) :
    (tx.setSignatures answers).unsigned = tx.unsigned := by
  -- One signature after the other disappears.
  induction answers generalizing tx with
  | nil => rfl
  | cons answer rest ih =>
    exact (ih _).trans (unsigned_setSignature tx answer.address answer.signature)

/-- Filling slots in turn leaves the kind alone. -/
@[simp] theorem kind_setSignatures (tx : Transaction) (answers : List Signed) :
    (tx.setSignatures answers).kind = tx.kind := by
  -- The kind is that of the emptied transaction.
  rw [← kind_unsigned, unsigned_setSignatures, kind_unsigned]

/-- Filling slots in turn leaves their owners alone. -/
@[simp] theorem signers_setSignatures (tx : Transaction) (answers : List Signed) :
    (tx.setSignatures answers).signers = tx.signers := by
  -- The owners are those of the emptied transaction.
  rw [← signers_unsigned, unsigned_setSignatures, signers_unsigned]

/-- The octets that endorsers sign are the same however many slots are filled. -/
@[simp] theorem signBytes_setSignatures (tx : Transaction) (answers : List Signed)
    (chain : String) : (tx.setSignatures answers).signBytes chain = tx.signBytes chain := by
  -- The octets are made of the emptied transaction.
  rw [signBytes, unsigned_setSignatures, signBytes]

/-- Signatures of two addresses go into different slots. -/
theorem setSignature_comm (tx : Transaction) {first second : Signed}
    (distinct : first.address ≠ second.address) :
    (tx.setSignature first.address first.signature).setSignature second.address
        second.signature =
      (tx.setSignature second.address second.signature).setSignature first.address
        first.signature := by
  simp only [setSignature, mapEndorsements_mapEndorsements]
  congr 1
  funext slot
  -- A slot has one owner, so at most one of the two signatures concerns it.
  by_cases ofFirst : slot.address = first.address
  · simp [ofFirst, distinct, Endorsement.sign]
  · by_cases ofSecond : slot.address = second.address
    · simp [ofSecond, distinct.symm, Endorsement.sign]
    · simp [ofFirst, ofSecond]

/-- The order of signatures of different addresses makes no difference. -/
theorem setSignatures_perm (tx : Transaction) {others : List Signed} (perm : answers.Perm others)
    (distinct : (answers.map Signed.address).Nodup) :
    tx.setSignatures answers = tx.setSignatures others := by
  -- It is enough that any two of the signatures commute.
  apply perm.foldl_eq'
  intro first firstMember second secondMember filled
  by_cases same : first = second
  · rw [same]
  · apply setSignature_comm
    -- Two different answers with one address would be a repetition.
    intro sameAddress
    exact same (List.inj_on_of_nodup_map distinct firstMember secondMember sameAddress)

/-- Each of the signatures could have been the last one. -/
theorem exists_setSignatures_last (tx : Transaction) {answer : Signed} (member : answer ∈ answers)
    (distinct : (answers.map Signed.address).Nodup) :
    ∃ rest, tx.setSignatures answers =
      (tx.setSignatures rest).setSignature answer.address answer.signature := by
  obtain ⟨before, after, rfl⟩ := List.append_of_mem member
  -- The answer is moved behind the others, which keeps the result.
  have moved : (before ++ answer :: after).Perm (before ++ after ++ [answer]) := by
    rw [List.append_assoc]
    exact (List.perm_append_singleton answer after).symm.append_left before
  refine ⟨before ++ after, ?_⟩
  rw [setSignatures_perm tx moved distinct, setSignatures, List.foldl_append, List.foldl_cons,
    List.foldl_nil, setSignatures]

/-- Every slot of an address holds the signature that was put into the slots of that address. -/
theorem signature_of_mem_setSignature {address : Address} {signature : Signature}
    {slot : Endorsement} (member : slot ∈ (tx.setSignature address signature).endorsements)
    (owned : slot.address = address) : slot.signature = signature := by
  rw [setSignature, endorsements_mapEndorsements] at member
  obtain ⟨before, -, rfl⟩ := List.mem_map.mp member
  -- A slot that was left as it is belongs to somebody else.
  by_cases own : before.address = address
  · rw [if_pos (beq_iff_eq.mpr own)]
    rfl
  · rw [if_neg (mt beq_iff_eq.mp own)] at owned
    exact absurd owned own

end Countersign.Transaction
