import Countersign.Proofs.Signing.Coverage
import Countersign.Proofs.Transaction.Negatives

/-! Keys whose slots are empty: the octets of the first slot are made before the slot is looked at,
so a negative integer among what they cover is an error, and otherwise the answer is no. -/

namespace Countersign.Transaction

open Rlp (EncodeError)

variable {tx : Transaction} {chain : String} {key : FixedBytes 32}

/-- Verification fails exactly for a negative integer among what the first slot must cover. -/
theorem verify_eq_error_iff {error : EncodeError} :
    tx.verify chain key = .error error ↔
      ∃ first later, tx.slotsOwnedBy (Address.ofPublicKey key) = first :: later ∧
        NamesFirstNegative error first.preimage.integers := by
  rw [verify_eq]
  -- Without a slot nothing has to be written.
  cases owned : tx.slotsOwnedBy (Address.ofPublicKey key) with
  | nil => simp
  | cons first later => simp [map_eq_error_iff, Preimage.octets_eq_error_iff]

/-- An account owns no slot exactly if it is not to sign. -/
theorem slotsOwnedBy_eq_nil_iff {address : Address} :
    tx.slotsOwnedBy address = [] ↔ address ∉ tx.signers := by
  -- Signers are the owners of the slots.
  rw [slotsOwnedBy, List.filter_eq_nil_iff, signers, ← map_endorsement_slots]
  simp

/-- The first slot of an account is a slot of the transaction, and the account's own. -/
theorem first_of_slotsOwnedBy {address : Address} {first : Slot} {later : List Slot}
    (owned : tx.slotsOwnedBy address = first :: later) :
    first ∈ tx.slots ∧ first.endorsement.address = address := by
  -- It is the head of the list that is picked.
  rw [← mem_slotsOwnedBy_iff, owned]
  exact List.mem_cons_self

/-- What must be covered in a slot has no integers that the transaction does not have. -/
theorem integers_subset_of_mem_slots {slot : Slot} (member : slot ∈ tx.slots) :
    slot.preimage.integers ⊆ tx.integers := by
  by_cases payment : tx.kind = .servicePayment
  · cases tx with
    | servicePayment body =>
      -- The source covers what it pays, the target everything.
      simp only [slots, List.mem_cons, List.not_mem_nil, or_false] at member
      rcases member with rfl | rfl
      · intro value paid
        exact List.mem_append_left _ (List.mem_append_right _ paid)
      · exact List.Subset.refl _
    | _ => cases payment
  · rw [slots_of_kind_ne payment] at member
    obtain ⟨endorsement, -, rfl⟩ := List.mem_map.mp member
    exact List.Subset.refl _

/-- A key all of whose slots are empty is answered with no exactly when no integer is negative that
its first slot must cover, and the first negative one is the error otherwise. So the answer is no
for every key without a slot, and for every such key if the transaction can be written. -/
theorem verify_of_empty_slots (tx : Transaction) (chain : String) (key : FixedBytes 32)
    (empty : ∀ slot ∈ tx.endorsements, slot.address = Address.ofPublicKey key →
      slot.signature = .empty) :
    (tx.verify chain key = .ok false ↔
      ∀ first later, tx.slotsOwnedBy (Address.ofPublicKey key) = first :: later →
        ∀ value ∈ first.preimage.integers, 0 ≤ value) ∧
    (∀ error, tx.verify chain key = .error error ↔
      ∃ first later, tx.slotsOwnedBy (Address.ofPublicKey key) = first :: later ∧
        NamesFirstNegative error first.preimage.integers) ∧
    (Address.ofPublicKey key ∉ tx.signers → tx.verify chain key = .ok false) ∧
    (∀ wire, tx.encode = .ok wire → tx.verify chain key = .ok false) := by
  have answered : tx.verify chain key = .ok false ↔
      ∀ first later, tx.slotsOwnedBy (Address.ofPublicKey key) = first :: later →
        ∀ value ∈ first.preimage.integers, 0 ≤ value := by
    rw [verify_eq]
    cases owned : tx.slotsOwnedBy (Address.ofPublicKey key) with
    | nil => simp
    | cons first later =>
      obtain ⟨member, owner⟩ := first_of_slotsOwnedBy owned
      have listed : first.endorsement ∈ tx.endorsements := by
        rw [← map_endorsement_slots]
        exact List.mem_map_of_mem member
      -- Whatever the octets are, an empty signature of them is invalid.
      simp [map_eq_ok_iff, empty _ listed owner, first.preimage.exists_octets_iff chain]
  refine ⟨answered, fun error => verify_eq_error_iff, ?_, ?_⟩
  · intro stranger
    refine answered.mpr ?_
    intro first later owned
    rw [slotsOwnedBy_eq_nil_iff.mpr stranger] at owned
    cases owned
  · intro wire written
    refine answered.mpr ?_
    intro first later owned value covered
    have member := (first_of_slotsOwnedBy owned).1
    exact nonnegative_of_encode written value (integers_subset_of_mem_slots member covered)

/-- A payment of the issuer that nobody has signed, with a negative fee and promise. -/
def overdrawnVoucher : ServicePayment where
  fee := ⟨-1, 0⟩
  source := ⟨issuerAddress, ⟨2, 0⟩, 3, .empty⟩
  target := ⟨.zero, ⟨0, -4⟩, 5, .empty⟩
  paymentSequence := 6
  reserveSequence := 7
  resourceId := "r"

/-- The payment cannot be written. Its source, which covers neither the fee nor the promise, is
answered with no, and so is the partner, which has no slot. -/
theorem verify_of_empty_slots_overdrawnVoucher :
    (servicePayment overdrawnVoucher).encode = .error (.negativeInteger (-1)) ∧
      (servicePayment overdrawnVoucher).verify "net" issuer.key = .ok false ∧
      (servicePayment overdrawnVoucher).verify "net" partner.key = .ok false := by
  -- Nobody has signed anything yet.
  have empty : ∀ slot ∈ (servicePayment overdrawnVoucher).endorsements,
      slot.signature = .empty := by decide
  have ofIssuer := verify_of_empty_slots (servicePayment overdrawnVoucher) "net" issuer.key
    fun slot member _ => empty slot member
  have ofPartner := verify_of_empty_slots (servicePayment overdrawnVoucher) "net" partner.key
    fun slot member _ => empty slot member
  rw [address_issuer] at ofIssuer
  rw [address_partner] at ofPartner
  -- The source covers the amount alone, which is not negative.
  refine ⟨by decide +kernel, ofIssuer.1.mpr ?_, ofPartner.2.2.1 (by decide)⟩
  intro first later owned
  have source : (servicePayment overdrawnVoucher).slotsOwnedBy issuerAddress =
      [⟨overdrawnVoucher.source, .source overdrawnVoucher⟩] := rfl
  obtain ⟨rfl, -⟩ := List.cons.inj (source.symm.trans owned)
  decide

/-- A transfer of the issuer that nobody has signed, with a negative fee. -/
def overdrawnTransfer : Transaction :=
  .transfer {
    fee := ⟨-1, 0⟩
    endorsements := [⟨issuerAddress, ⟨2, 0⟩, 3, .empty⟩]
    payouts := [] }

/-- The issuer's only slot is empty, and its key is answered with an error. -/
theorem verify_overdrawnTransfer :
    (∀ slot ∈ overdrawnTransfer.endorsements, slot.signature = .empty) ∧
      overdrawnTransfer.verify "net" issuer.key = .error (.negativeInteger (-1)) := by
  refine ⟨by decide, verify_eq_error_iff.mpr ?_⟩
  -- The first slot covers the fee, which stands in front of all that is not negative.
  rw [address_issuer]
  exact ⟨_, [], rfl, -1, ⟨[], [0, 2, 0], rfl, by decide, by decide⟩, rfl, rfl⟩

end Countersign.Transaction
