import Countersign.Proofs.Signing.Verification
import Countersign.Proofs.Transaction.Preimage

/-! What verification answers for: a key is answered with yes exactly when the first slot of its
account holds a valid signature, and the account's other slots are not looked at. -/

namespace Countersign

/-- An endorsement with what the signature in its slot must cover. -/
structure Slot where
  /-- The endorsement. -/
  endorsement : Endorsement
  /-- What is signed. -/
  preimage : Preimage
  deriving DecidableEq

namespace Slot

/-- A slot holds a signature that is valid under a key, over the octets that it must cover. -/
def IsValid (slot : Slot) (chain : String) (key : FixedBytes 32) : Prop :=
  ∃ bytes, slot.preimage.octets chain = .ok bytes ∧
    Signature.isValid bytes slot.endorsement.signature key = true

/-- Two slots hold the same signature, which must cover the same. -/
def IsLike (slot other : Slot) : Prop :=
  slot.preimage = other.preimage ∧ slot.endorsement.signature = other.endorsement.signature

/-- What holds in a slot holds in the slots like it. -/
theorem IsValid.of_like {slot other : Slot} {chain : String} {key : FixedBytes 32}
    (valid : slot.IsValid chain key) (like : slot.IsLike other) : other.IsValid chain key := by
  obtain ⟨bytes, made, accepted⟩ := valid
  -- The octets come from the preimage, and the verdict from them and the signature.
  obtain ⟨samePreimage, sameSignature⟩ := like
  rw [samePreimage] at made
  rw [sameSignature] at accepted
  exact ⟨bytes, made, accepted⟩

end Slot

namespace Transaction

/-- The slots of a transaction in order: the parties of a payment sign views of their own, and all
other endorsers the general octets. -/
def slots : Transaction → List Slot
  | .servicePayment body => [⟨body.source, .source body⟩, ⟨body.target, .target body⟩]
  | tx => tx.endorsements.map fun endorsement => ⟨endorsement, .endorsers tx⟩

/-- The slots of an account, in order. -/
def slotsOwnedBy (tx : Transaction) (address : Address) : List Slot :=
  tx.slots.filter fun slot => slot.endorsement.address == address

variable {tx : Transaction} {chain : String}

/-- Each endorsement has one slot. -/
theorem map_endorsement_slots (tx : Transaction) :
    tx.slots.map Slot.endorsement = tx.endorsements := by
  -- Each kind builds its slots from its endorsements, in their order.
  cases tx <;> simp [slots, endorsements, Function.comp_def]

/-- The slots of a kind with endorsers must all cover the general octets. -/
theorem slots_of_kind_ne (notPayment : tx.kind ≠ .servicePayment) :
    tx.slots = tx.endorsements.map fun endorsement => ⟨endorsement, .endorsers tx⟩ := by
  -- A payment is the one kind whose slots differ in what they cover.
  cases tx with
  | servicePayment body => exact absurd rfl notPayment
  | _ => rfl

/-- Of a kind with endorsers, an account owns the slots of its endorsements. -/
theorem slotsOwnedBy_of_kind_ne {address : Address} (notPayment : tx.kind ≠ .servicePayment) :
    tx.slotsOwnedBy address =
      (tx.endorsements.filter fun slot => slot.address == address).map
        fun endorsement => ⟨endorsement, .endorsers tx⟩ := by
  -- Picking before or after adding the preimage is the same.
  rw [slotsOwnedBy, slots_of_kind_ne notPayment, List.filter_map, Function.comp_def]

/-- An account answers for the first of its slots, under the octets that it must cover. -/
theorem slotOf_eq (tx : Transaction) (chain : String) (address : Address) :
    tx.slotOf chain address =
      match tx.slotsOwnedBy address with
      | [] => .ok none
      | first :: _ =>
        (first.preimage.octets chain).map fun bytes =>
          some (first.endorsement.signature, bytes) := by
  by_cases payment : tx.kind = .servicePayment
  · cases tx with
    | servicePayment body =>
      -- The source stands in front of the target, and there is nobody else.
      by_cases source : body.source.address = address
      · simp [slotOf, slotsOwnedBy, slots, source, Preimage.octets]
      · by_cases target : body.target.address = address
        · simp [slotOf, slotsOwnedBy, slots, source, target, Preimage.octets]
        · simp [slotOf, slotsOwnedBy, slots, source, target, endorsements]
    | _ => cases payment
  · rw [slotsOwnedBy_of_kind_ne payment]
    -- The first owned endorsement is the one that is found.
    have first := List.head?_filter (l := tx.endorsements)
      (p := fun slot : Endorsement => slot.address == address)
    cases owned : tx.endorsements.filter fun slot => slot.address == address with
    | nil =>
      rw [owned, List.head?_nil] at first
      cases tx with
      | servicePayment body => exact absurd rfl payment
      | _ => simp only [slotOf, ← first, List.map_nil]
    | cons slot rest =>
      rw [owned, List.head?_cons] at first
      rw [slotOf_of_kind_ne payment first.symm, List.map_cons]
      rfl

/-- A key is answered for the first slot of its account, once the octets of that slot are made; an
empty slot is no exception. -/
theorem verify_eq (tx : Transaction) (chain : String) (key : FixedBytes 32) :
    tx.verify chain key =
      match tx.slotsOwnedBy (Address.ofPublicKey key) with
      | [] => .ok false
      | first :: _ =>
        (first.preimage.octets chain).map fun bytes =>
          Signature.isValid bytes first.endorsement.signature key := by
  -- The lookup answers for the head of the account's slots.
  have answers := slotOf_eq tx chain (Address.ofPublicKey key)
  cases owned : tx.slotsOwnedBy (Address.ofPublicKey key) with
  | nil =>
    rw [owned] at answers
    simp [verify, answers, bind, Except.bind, pure, Except.pure]
  | cons first later =>
    rw [owned] at answers
    cases made : first.preimage.octets chain with
    | error error => simp [verify, answers, made, bind, Except.bind, Except.map]
    | ok bytes =>
      -- The octets are made before the signature is looked at.
      have found : tx.slotOf chain (Address.ofPublicKey key) =
          .ok (some (first.endorsement.signature, bytes)) := by
        rw [answers]
        exact congrArg (Except.map _) made
      rw [verify_of_slotOf found]
      simp [made, Except.map]

/-- A key is answered with yes exactly when the first slot of its account is valid. -/
theorem verify_eq_ok_true_iff {key : FixedBytes 32} :
    tx.verify chain key = .ok true ↔
      ∃ first later, tx.slotsOwnedBy (Address.ofPublicKey key) = first :: later ∧
        first.IsValid chain key := by
  rw [verify_eq]
  -- Without a slot the answer is no.
  cases owned : tx.slotsOwnedBy (Address.ofPublicKey key) with
  | nil => simp
  | cons first later => simp [map_eq_ok_iff, Slot.IsValid]

/-- A slot among those of its owner is a slot of the transaction, and conversely. -/
theorem mem_slotsOwnedBy_iff {address : Address} {slot : Slot} :
    slot ∈ tx.slotsOwnedBy address ↔ slot ∈ tx.slots ∧ slot.endorsement.address = address := by
  -- The slots of an account are picked out of all by their address.
  simp only [slotsOwnedBy, List.mem_filter, beq_iff_eq]

/-- The owner of a slot is among those that are to sign. -/
theorem address_mem_signers {slot : Slot} (member : slot ∈ tx.slots) :
    slot.endorsement.address ∈ tx.signers := by
  -- Signers are the owners of endorsements, and each endorsement has its slot.
  rw [signers, ← map_endorsement_slots]
  exact List.mem_map_of_mem (List.mem_map_of_mem member)

/-- A yes covers every slot of the key's account if the slots of the account are alike. -/
theorem isValid_of_verify {key : FixedBytes 32}
    (alike : ∀ slot ∈ tx.slotsOwnedBy (Address.ofPublicKey key),
      ∀ other ∈ tx.slotsOwnedBy (Address.ofPublicKey key), slot.IsLike other)
    (yes : tx.verify chain key = .ok true) :
    ∀ slot ∈ tx.slotsOwnedBy (Address.ofPublicKey key), slot.IsValid chain key := by
  -- The yes is about the first slot, and likeness carries it to the others.
  obtain ⟨first, later, owned, valid⟩ := verify_eq_ok_true_iff.mp yes
  have member : first ∈ tx.slotsOwnedBy (Address.ofPublicKey key) := by
    rw [owned]
    exact List.mem_cons_self
  intro slot slotMember
  exact valid.of_like (alike first member slot slotMember)

/-- A key is answered with yes exactly when the first slot of its account is valid. So a yes covers
every slot of the account if they are alike, and if that is so of all accounts and each has a key
that is answered with yes, then every slot holds a valid signature of its owner. -/
theorem verify_covers_slots (tx : Transaction) (chain : String) :
    (∀ key, tx.verify chain key = .ok true ↔
      ∃ first later, tx.slotsOwnedBy (Address.ofPublicKey key) = first :: later ∧
        first.IsValid chain key) ∧
    (∀ key,
      (∀ slot ∈ tx.slotsOwnedBy (Address.ofPublicKey key),
        ∀ other ∈ tx.slotsOwnedBy (Address.ofPublicKey key), slot.IsLike other) →
      tx.verify chain key = .ok true →
      ∀ slot ∈ tx.slotsOwnedBy (Address.ofPublicKey key), slot.IsValid chain key) ∧
    ((∀ slot ∈ tx.slots, ∀ other ∈ tx.slots,
        slot.endorsement.address = other.endorsement.address → slot.IsLike other) →
      (∀ address ∈ tx.signers, ∃ key, Address.ofPublicKey key = address ∧
        tx.verify chain key = .ok true) →
      ∀ slot ∈ tx.slots, ∃ key, Address.ofPublicKey key = slot.endorsement.address ∧
        slot.IsValid chain key) := by
  refine ⟨fun key => verify_eq_ok_true_iff, fun key => isValid_of_verify, ?_⟩
  -- Each slot has its owner, whose yes covers it with all the others of that owner.
  intro alike answered slot member
  obtain ⟨key, owner, yes⟩ := answered slot.endorsement.address (address_mem_signers member)
  refine ⟨key, owner, isValid_of_verify ?_ yes slot ?_⟩
  -- Two slots of one key's account have one address.
  · intro left leftMember right rightMember
    obtain ⟨leftSlot, leftOwner⟩ := mem_slotsOwnedBy_iff.mp leftMember
    obtain ⟨rightSlot, rightOwner⟩ := mem_slotsOwnedBy_iff.mp rightMember
    exact alike left leftSlot right rightSlot (leftOwner.trans rightOwner.symm)
  · exact mem_slotsOwnedBy_iff.mpr ⟨member, owner.symm⟩

/-- The key pair of a seed that is two followed by zeros. -/
def partner : KeyPair := .ofSeed (.leftJustified [2])

/-- The address of the partner. -/
def partnerAddress : Address :=
  ⟨[0x8D, 0x67, 0x77, 0xFF, 0xA1, 0xC8, 0x22, 0xCB, 0xBA, 0xFE, 0xA3, 0x7B, 0xE7,
    0x40, 0x23, 0x99, 0xBC, 0x6D, 0xFC, 0x15], rfl⟩

/-- The octets of the partner's address are those of its key's digest. -/
theorem address_partner : Address.ofPublicKey partner.key = partnerAddress :=
  calc Address.ofPublicKey partner.key
    _ = KeyPair.addressWords (.leftJustified [2]) := KeyPair.address_ofSeed _
    -- The digest behind the words is computed once, here.
    _ = partnerAddress := by decide +kernel

/-- A transfer that lists the issuer twice and its partner once, with what is in their slots. -/
def sharedTransfer (first between last : Signature) : Transaction :=
  .transfer {
    fee := ⟨1, 0⟩
    endorsements := [⟨issuerAddress, ⟨2, 0⟩, 3, first⟩, ⟨partnerAddress, ⟨4, 0⟩, 5, between⟩,
      ⟨issuerAddress, ⟨6, 0⟩, 7, last⟩]
    payouts := [] }

/-- The octets of the transfer exist, and the signatures that both accounts make of them are
valid. -/
theorem exists_sharedBytes :
    ∃ bytes, (sharedTransfer .empty .empty .empty).signBytes "net" = .ok bytes ∧
      Signature.isValid bytes (.ofMessage bytes issuer.seed) issuer.key = true ∧
      Signature.isValid bytes (.ofMessage bytes partner.seed) partner.key = true := by
  -- The octets are needed only as those that are signed, so a test stands for them.
  suffices accepted : (((sharedTransfer .empty .empty .empty).signBytes "net").toOption.any
      fun bytes => Signature.isValid bytes (.ofMessage bytes issuer.seed) issuer.key &&
        Signature.isValid bytes (.ofMessage bytes partner.seed) partner.key) = true by
    obtain ⟨bytes, made, bothAccepted⟩ := exists_of_any accepted
    rw [Bool.and_eq_true] at bothAccepted
    exact ⟨bytes, made, bothAccepted⟩
  -- What the keys sign is valid by the law of the curve, and no point is computed.
  simp only [Signature.isValid_ofMessage (rfl : issuer.key = Curve.publicKey issuer.seed),
    Signature.isValid_ofMessage (rfl : partner.key = Curve.publicKey partner.seed)]
  decide +kernel

/-- The issuer owns the first slot and the last. -/
theorem slotsOwnedBy_issuer (first between last : Signature) :
    (sharedTransfer first between last).slotsOwnedBy issuerAddress =
      [⟨⟨issuerAddress, ⟨2, 0⟩, 3, first⟩, .endorsers (sharedTransfer first between last)⟩,
        ⟨⟨issuerAddress, ⟨6, 0⟩, 7, last⟩, .endorsers (sharedTransfer first between last)⟩] :=
  -- The list is picked by evaluation, whatever the signatures are.
  rfl

/-- The partner owns the slot between them. -/
theorem slotsOwnedBy_partner (first between last : Signature) :
    (sharedTransfer first between last).slotsOwnedBy partnerAddress =
      [⟨⟨partnerAddress, ⟨4, 0⟩, 5, between⟩, .endorsers (sharedTransfer first between last)⟩] :=
  -- Here as well, only addresses are compared.
  rfl

/-- The transfer in which both accounts have signed all of their slots: the slots of each are alike,
both keys are answered with yes, and every slot is valid. -/
theorem verify_covers_slots_sharedTransfer :
    ∃ issued partnered : Signature,
      (∀ slot ∈ (sharedTransfer issued partnered issued).slots,
        ∀ other ∈ (sharedTransfer issued partnered issued).slots,
          slot.endorsement.address = other.endorsement.address → slot.IsLike other) ∧
      (sharedTransfer issued partnered issued).verify "net" issuer.key = .ok true ∧
      (sharedTransfer issued partnered issued).verify "net" partner.key = .ok true ∧
      ∀ slot ∈ (sharedTransfer issued partnered issued).slots,
        ∃ key, Address.ofPublicKey key = slot.endorsement.address ∧ slot.IsValid "net" key := by
  obtain ⟨bytes, made, issuerValid, partnerValid⟩ := exists_sharedBytes
  let issued := Signature.ofMessage bytes issuer.seed
  let partnered := Signature.ofMessage bytes partner.seed
  have octets : (sharedTransfer issued partnered issued).signBytes "net" = .ok bytes := made
  obtain ⟨answers, -, covers⟩ := verify_covers_slots (sharedTransfer issued partnered issued) "net"
  have issuerOwns := slotsOwnedBy_issuer issued partnered issued
  have partnerOwns := slotsOwnedBy_partner issued partnered issued
  rw [← address_issuer] at issuerOwns
  rw [← address_partner] at partnerOwns
  have issuerYes := (answers issuer.key).mpr ⟨_, _, issuerOwns, bytes, octets, issuerValid⟩
  have partnerYes := (answers partner.key).mpr ⟨_, _, partnerOwns, bytes, octets, partnerValid⟩
  have alike : ∀ slot ∈ (sharedTransfer issued partnered issued).slots,
      ∀ other ∈ (sharedTransfer issued partnered issued).slots,
        slot.endorsement.address = other.endorsement.address → slot.IsLike other := by
    -- The two accounts differ, and the issuer's two slots hold one signature.
    have apart : issuerAddress ≠ partnerAddress := by decide
    simp [sharedTransfer, slots, endorsements, Slot.IsLike, apart, apart.symm]
  refine ⟨issued, partnered, alike, issuerYes, partnerYes, covers alike ?_⟩
  intro address member
  simp only [sharedTransfer, signers, endorsements, List.map_cons, List.map_nil, List.mem_cons,
    List.not_mem_nil, or_false] at member
  rcases member with rfl | rfl | rfl
  · exact ⟨issuer.key, address_issuer, issuerYes⟩
  · exact ⟨partner.key, address_partner, partnerYes⟩
  · exact ⟨issuer.key, address_issuer, issuerYes⟩

/-- The issuer's key is answered with yes although its last slot holds an octet that is no
signature, because its first slot is valid. -/
theorem verify_sharedTransfer_tampered :
    ∃ bytes, (sharedTransfer .empty .empty .empty).signBytes "net" = .ok bytes ∧
      (sharedTransfer (.ofMessage bytes issuer.seed) .empty ⟨[9]⟩).verify "net" issuer.key =
        .ok true ∧
      ∃ slot ∈ (sharedTransfer (.ofMessage bytes issuer.seed) .empty ⟨[9]⟩).slotsOwnedBy
        (Address.ofPublicKey issuer.key), ¬ slot.IsValid "net" issuer.key := by
  obtain ⟨bytes, made, issuerValid, -⟩ := exists_sharedBytes
  have owned := slotsOwnedBy_issuer (.ofMessage bytes issuer.seed) .empty ⟨[9]⟩
  rw [← address_issuer] at owned
  refine ⟨bytes, made, verify_eq_ok_true_iff.mpr ⟨_, _, owned, bytes, made, issuerValid⟩, ?_⟩
  rw [owned]
  refine ⟨_, List.mem_cons_of_mem _ List.mem_cons_self, ?_⟩
  -- A signature has sixty-four octets.
  intro valid
  obtain ⟨other, -, accepted⟩ := valid
  simp [Signature.isValid, Curve.verify] at accepted

end Transaction

end Countersign
