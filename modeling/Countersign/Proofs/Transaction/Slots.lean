import Countersign.Transaction.Preimage

/-! The slots for signatures: what filling them changes in a transaction, and what it leaves. -/

namespace Countersign.Transaction

/-- Two changes of every slot, one behind the other, are one change of every slot. -/
theorem mapEndorsements_mapEndorsements (tx : Transaction)
    (first second : Endorsement → Endorsement) :
    (tx.mapEndorsements first).mapEndorsements second =
      tx.mapEndorsements fun slot => second (first slot) := by
  -- Only the kinds with a list of slots have anything to compose.
  cases tx <;> simp [mapEndorsements, Function.comp_def]

/-- A change that leaves every slot as it is leaves the transaction as it is. -/
theorem mapEndorsements_eq_self {tx : Transaction} {change : Endorsement → Endorsement}
    (same : ∀ slot ∈ tx.endorsements, change slot = slot) : tx.mapEndorsements change = tx := by
  have listed : tx.endorsements.map change = tx.endorsements := by
    simpa using List.map_congr_left same
  -- The slots of a kind stand in its list of slots, one by one or as that list.
  cases tx <;> simp_all [mapEndorsements, endorsements]

/-- A change that leaves the owners alone leaves the addresses that are to sign alone. -/
theorem signers_mapEndorsements (tx : Transaction) {change : Endorsement → Endorsement}
    (keeps : ∀ slot, (change slot).address = slot.address) :
    (tx.mapEndorsements change).signers = tx.signers := by
  -- Both sides list the owners slot by slot.
  rw [signers, endorsements_mapEndorsements, List.map_map, signers]
  exact List.map_congr_left fun slot _ => keeps slot

/-- An address owns a slot exactly when it is among those that are to sign. -/
theorem hasSigner_eq_true_iff {tx : Transaction} {address : Address} :
    tx.hasSigner address = true ↔ address ∈ tx.signers := by
  -- Looking for an owner is looking for a slot of that owner.
  simp only [hasSigner, signers, List.any_eq_true, List.mem_map, beq_iff_eq]

/-- Emptying the slots leaves the kind alone. -/
@[simp] theorem kind_unsigned (tx : Transaction) : tx.unsigned.kind = tx.kind :=
  -- Only endorsements are changed.
  kind_mapEndorsements tx _

/-- Emptying the slots leaves their owners alone. -/
@[simp] theorem signers_unsigned (tx : Transaction) : tx.unsigned.signers = tx.signers :=
  -- Emptying keeps the address of each endorsement.
  signers_mapEndorsements tx fun _ => rfl

/-- Empty slots stay empty when they are emptied. -/
@[simp] theorem unsigned_unsigned (tx : Transaction) : tx.unsigned.unsigned = tx.unsigned :=
  -- An endorsement that is emptied twice is emptied once.
  mapEndorsements_mapEndorsements tx _ _

/-- Filling slots leaves the kind alone. -/
@[simp] theorem kind_setSignature (tx : Transaction) (address : Address) (signature : Signature) :
    (tx.setSignature address signature).kind = tx.kind := kind_mapEndorsements tx _

/-- Filling slots leaves their owners alone. -/
@[simp] theorem signers_setSignature (tx : Transaction) (address : Address)
    (signature : Signature) : (tx.setSignature address signature).signers = tx.signers := by
  -- A slot is filled or left, and has its owner either way.
  apply signers_mapEndorsements
  intro slot
  split <;> rfl

/-- Filling slots disappears when all of them are emptied. -/
@[simp] theorem unsigned_setSignature (tx : Transaction) (address : Address)
    (signature : Signature) : (tx.setSignature address signature).unsigned = tx.unsigned := by
  -- Emptying a slot forgets whether it was filled just before.
  have forgets : (fun slot : Endorsement =>
      (if slot.address == address then slot.sign signature else slot).clear) =
        Endorsement.clear := by
    funext slot
    split <;> rfl
  rw [unsigned, setSignature, mapEndorsements_mapEndorsements, forgets, unsigned]

/-- A signature of an address that owns no slot goes nowhere. -/
theorem setSignature_of_not_mem {tx : Transaction} {address : Address} (signature : Signature)
    (stranger : address ∉ tx.signers) : tx.setSignature address signature = tx := by
  apply mapEndorsements_eq_self
  intro slot member
  -- An endorsement of this address would make it an owner.
  have other : slot.address ≠ address := by
    intro owned
    exact stranger (owned ▸ List.mem_map_of_mem member)
  simp [other]

/-- The octets that endorsers sign do not depend on what is in the slots. -/
@[simp] theorem signBytes_setSignature (tx : Transaction) (address : Address)
    (signature : Signature) (chain : String) :
    (tx.setSignature address signature).signBytes chain = tx.signBytes chain := by
  -- The octets are made of the emptied transaction.
  rw [signBytes, unsigned_setSignature, signBytes]

/-- The first slot of an address that owns slots holds the signature they were filled with. -/
theorem find?_setSignature {tx : Transaction} {address : Address} (signature : Signature)
    (owned : tx.hasSigner address = true) :
    ∃ slot, (tx.setSignature address signature).endorsements.find?
        (fun slot => slot.address == address) = some slot ∧ slot.signature = signature := by
  -- Filling slots moves none of them, so the first one stays the first.
  obtain ⟨owner, member, same⟩ := List.any_eq_true.mp owned
  have keeps : ((fun slot : Endorsement => slot.address == address) ∘ fun slot : Endorsement =>
      if slot.address == address then slot.sign signature else slot) =
        fun slot => slot.address == address := by
    funext slot
    simp only [Function.comp_apply]
    split <;> rfl
  rw [setSignature, endorsements_mapEndorsements, List.find?_map, keeps]
  cases found : tx.endorsements.find? fun slot => slot.address == address with
  | none => exact absurd same (List.find?_eq_none.mp found owner member)
  | some slot =>
    have own := List.find?_some found
    refine ⟨slot.sign signature, ?_, rfl⟩
    rw [Option.map_some, if_pos own]

end Countersign.Transaction
