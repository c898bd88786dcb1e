import Countersign.Proofs.Rlp.Skeleton
import Countersign.Proofs.Transaction.Framing
import Countersign.Proofs.Transaction.Preimage
import Countersign.Proofs.Transaction.Slots

/-! Bodies under other tags: what is read as one kind is read as no other, except that transfers and
stakes are built alike, and then nothing but the tag tells their signed octets apart. -/

namespace Countersign

open Rlp (Codec Fields Item Skeleton)

namespace Rlp

/-- The outline of a balance. -/
def Skeleton.amount : Skeleton := .record [.string, .string]

/-- The outline of an endorsement. -/
def Skeleton.endorsement : Skeleton := .record [.string, .amount, .string, .string]

/-- The outline of a payout. -/
def Skeleton.payout : Skeleton := .record [.string, .amount]

/-- Addresses are read from strings. -/
theorem address_follows : address.Follows .string :=
  -- An address makes a string whatever its octets are.
  Codec.follows_string address_lawful fun _ _ made => ⟨_, (Except.ok.inj made).symm⟩

/-- Balances are read from records of two strings. -/
theorem amount_follows : amount.Follows .amount :=
  -- The two components are integers.
  (Codec.integer_follows.cons (Codec.integer_follows.cons Fields.nil_follows)).record

/-- Endorsements are read from records of an address, a balance and two strings. -/
theorem endorsement_follows : endorsement.Follows .endorsement :=
  -- The signature is a string that has been wrapped.
  (address_follows.cons (amount_follows.cons (Codec.word64_follows.cons
    (Codec.bytes_follows.iso.cons Fields.nil_follows)))).record

/-- Payouts are read from records of an address and a balance. -/
theorem payout_follows : payout.Follows .payout :=
  -- The balance is a record inside the record.
  (address_follows.cons (amount_follows.cons Fields.nil_follows)).record

end Rlp

/-- The outline of the bodies of a kind. -/
def Kind.skeleton : Kind → Skeleton
  | .issuance => .record [.endorsement, .list, .string]
  | .slash => .record [.endorsement, .string, .string, .string]
  | .transfer => .record [.amount, .list, .list]
  | .reserveFund => .record [.amount, .endorsement, .amount, .list, .string]
  | .releaseFund => .record [.amount, .endorsement, .string]
  | .servicePayment => .record [.amount, .endorsement, .endorsement, .string, .string, .string]
  | .splitRule => .record [.amount, .string, .endorsement, .list, .string]
  | .smartContract => .record [.endorsement, .payout, .string, .string, .string]
  | .stakeDeposit => .record [.amount, .list, .list]

namespace Transaction

open Rlp (endorsement_follows amount_follows payout_follows address_follows) in
/-- A body that is read under a kind is built as the bodies of that kind are. -/
theorem fits_of_ofBody {kind : Kind} {item : Item} {tx : Transaction}
    (read : ofBody kind item = .ok tx) : kind.skeleton.Fits item := by
  -- The kind chooses the codec that reads the item.
  cases kind with
  | issuance =>
    exact (endorsement_follows.cons (Codec.list_follows.cons (Codec.word64_follows.cons
      Fields.nil_follows))).record.fits_of_map read
  | slash =>
    exact (endorsement_follows.cons (address_follows.cons (Codec.word64_follows.cons
      (Codec.bytes_follows.cons Fields.nil_follows)))).record.fits_of_map read
  | transfer =>
    exact (amount_follows.cons (Codec.list_follows.cons (Codec.list_follows.cons
      Fields.nil_follows))).record.fits_of_map read
  | reserveFund =>
    exact (amount_follows.cons (endorsement_follows.cons (amount_follows.cons
      (Codec.list_follows.cons (Codec.word64_follows.cons
        Fields.nil_follows))))).record.fits_of_map read
  | releaseFund =>
    exact (amount_follows.cons (endorsement_follows.cons (Codec.word64_follows.cons
      Fields.nil_follows))).record.fits_of_map read
  | servicePayment =>
    exact (amount_follows.cons (endorsement_follows.cons (endorsement_follows.cons
      (Codec.word64_follows.cons (Codec.word64_follows.cons (Codec.text_follows.cons
        Fields.nil_follows)))))).record.fits_of_map read
  | splitRule =>
    exact (amount_follows.cons (Codec.text_follows.cons (endorsement_follows.cons
      (Codec.list_follows.cons (Codec.word64_follows.cons
        Fields.nil_follows))))).record.fits_of_map read
  | smartContract =>
    exact (endorsement_follows.cons (payout_follows.cons (Codec.word64_follows.cons
      (Codec.integer_follows.cons (Codec.bytes_follows.cons
        Fields.nil_follows))))).record.fits_of_map read
  | stakeDeposit =>
    exact (amount_follows.cons (Codec.list_follows.cons (Codec.list_follows.cons
      Fields.nil_follows))).record.fits_of_map read

/-- Of two kinds that an item is read under, one is that of transfers and the other of stakes. -/
theorem kinds_of_ofBody {kind other : Kind} {item : Item} {tx same : Transaction}
    (distinct : kind ≠ other) (read : ofBody kind item = .ok tx)
    (otherRead : ofBody other item = .ok same) :
    (kind = .transfer ∧ other = .stakeDeposit) ∨ (kind = .stakeDeposit ∧ other = .transfer) := by
  have together : ¬ kind.skeleton.apart other.skeleton = true := by
    intro separate
    exact Skeleton.not_fits_of_apart _ _ separate (fits_of_ofBody read) (fits_of_ofBody otherRead)
  -- All other pairs have a field, or a field's field, that tells them apart.
  cases kind <;> cases other <;> first
    | exact absurd rfl distinct
    | exact absurd (by decide) together
    | decide

/-- A transfer and a stake with the same fields. -/
inductive Twin : Transaction → Transaction → Prop where
  /-- Both have a fee, endorsements and payouts. -/
  | mk (fee : Amount) (endorsements : List Endorsement) (payouts : List Payout) :
    Twin (.transfer ⟨fee, endorsements, payouts⟩) (.stakeDeposit ⟨fee, endorsements, payouts⟩)

/-- Twins are read from the same items. -/
theorem Twin.ofBody_iff {tx stake : Transaction} {item : Item} (twin : Twin tx stake) :
    ofBody .transfer item = .ok tx ↔ ofBody .stakeDeposit item = .ok stake := by
  cases twin
  -- Both codecs read the same fields, and pack them in the same order.
  simp [ofBody, map_eq_ok_iff, Rlp.transfer, Rlp.stakeDeposit, Fields.ofItem_record_eq_ok_iff]

/-- The body of a transfer is read as the transfer exactly when it is read as its twin. -/
theorem Twin.decode_iff {tx stake : Transaction} (twin : Twin tx stake) (body : Bytes) :
    decode (tagged 2 body) = .ok tx ↔ decode (tagged 8 body) = .ok stake := by
  -- The tags choose the kinds, and the item behind either is the same.
  rw [decode_tagged_of_kind (rfl : Kind.transfer.tag = 2),
    decode_tagged_of_kind (rfl : Kind.stakeDeposit.tag = 8)]
  simp only [readBody_eq_ok_iff, twin.ofBody_iff]

/-- Whatever is read as a transfer is read as a stake with the same fields. -/
theorem exists_stake_of_decode {body : Bytes} {tx : Transaction}
    (read : decode (tagged 2 body) = .ok tx) :
    ∃ stake, Twin tx stake ∧ decode (tagged 8 body) = .ok stake := by
  have moves : tx.kind = .transfer := kind_of_decode_tagged rfl read
  cases tx with
  -- Only a transfer has the tag two, and its fields are those of a stake.
  | transfer moved =>
    have twin := Twin.mk moved.fee moved.endorsements moved.payouts
    exact ⟨_, twin, (twin.decode_iff body).mp read⟩
  | _ => cases moves

/-- Whatever is read as a stake is read as a transfer with the same fields. -/
theorem exists_transfer_of_decode {body : Bytes} {stake : Transaction}
    (read : decode (tagged 8 body) = .ok stake) :
    ∃ tx, Twin tx stake ∧ decode (tagged 2 body) = .ok tx := by
  have stakes : stake.kind = .stakeDeposit := kind_of_decode_tagged rfl read
  cases stake with
  -- Only a stake has the tag eight, and its fields are those of a transfer.
  | stakeDeposit staked =>
    have twin := Twin.mk staked.fee staked.endorsements staked.payouts
    exact ⟨_, twin, (twin.decode_iff body).mpr read⟩
  | _ => cases stakes

/-- What stands in the envelope in front of a wire form depends on the wire form's length only. -/
theorem exists_envelope_eq_append (chain : String) (length : Nat) (filled : 0 < length) :
    ∃ front, ∀ wire : Bytes, wire.length = length → envelope chain wire = front ++ wire := by
  let name := (Item.octets (Bytes.ofText chain)).write
  let zero := (Item.octets []).write
  let zeros := zero ++ zero ++ zero ++ (Item.octets (Bytes.zeros 20)).write ++ zero
  let payload := zeros ++ (Rlp.header Rlp.stringBase (name.length + length) ++ name)
  refine ⟨Rlp.header Rlp.listBase (payload.length + length) ++ payload, ?_⟩
  intro wire same
  have named : 0 < name.length := List.length_pos_iff.mpr (Item.write_ne_nil _)
  have headed : ∀ octet, name ++ wire = [octet] → Rlp.stringBase ≤ octet.toNat := by
    intro octet single
    have lengths := congrArg List.length single
    rw [List.length_append, List.length_singleton] at lengths
    omega
  -- Both headers declare lengths, in which the wire form counts for its own.
  have data : (Item.octets (name ++ wire)).write =
      Rlp.header Rlp.stringBase (name.length + length) ++ name ++ wire := by
    rw [Item.write_octets headed, List.length_append, same, List.append_assoc]
  have whole : zeros ++ (Item.octets (name ++ wire)).write = payload ++ wire := by
    rw [data, ← List.append_assoc]
  calc envelope chain wire
    _ = (Item.list (zeros ++ (Item.octets (name ++ wire)).write)).write := rfl
    _ = Rlp.header Rlp.listBase (payload.length + length) ++ (payload ++ wire) := by
      rw [whole, Item.write_list, List.length_append, same]
    _ = _ := (List.append_assoc _ _ _).symm

/-- The signed octets of twins differ in the octet of the tag only, which is the first of the wire
form at their end. -/
theorem Twin.exists_signBytes {tx stake : Transaction} (twin : Twin tx stake)
    (nonnegative : ∀ value ∈ tx.integers, 0 ≤ value) (chain : String) :
    ∃ front back, tx.unsigned.encode = .ok (2 :: back) ∧ stake.unsigned.encode = .ok (8 :: back) ∧
      tx.signBytes chain = .ok (front ++ 2 :: back) ∧
      stake.signBytes chain = .ok (front ++ 8 :: back) := by
  -- The fields of both make one item, which stands behind the tag.
  have emptied : ∀ value ∈ tx.unsigned.integers, 0 ≤ value := by rwa [integers_unsigned]
  obtain ⟨wire, written⟩ := exists_encode emptied
  obtain ⟨item, made, -⟩ := encode_eq_ok_iff.mp written
  obtain ⟨front, around⟩ := exists_envelope_eq_append chain (item.write.length + 1) (by omega)
  -- Both wire forms have one length, so the envelope in front of them is the same.
  have encoded : tx.unsigned.encode = .ok (2 :: item.write) ∧
      stake.unsigned.encode = .ok (8 :: item.write) := by
    have two : tagItem .transfer = [2] := by decide +kernel
    have eight : tagItem .stakeDeposit = [8] := by decide +kernel
    cases twin
    refine ⟨encode_eq_ok_iff.mpr ⟨item, made, ?_⟩, encode_eq_ok_iff.mpr ⟨item, made, ?_⟩⟩
    · rw [kind_unsigned, kind, two, List.singleton_append]
    · rw [kind_unsigned, kind, eight, List.singleton_append]
  refine ⟨front, item.write, encoded.1, encoded.2, ?_, ?_⟩
  · rw [signBytes, wrapped, encoded.1, ← around _ rfl]
    rfl
  · rw [signBytes, wrapped, encoded.2, ← around _ rfl]
    rfl

/-- A body that is read behind two different tags is that of a transfer behind the one and of a
stake behind the other. Whatever is read as either is read as both, with the same fields, and under
every chain the octets that endorsers sign of the two differ in the octet of the tag only. -/
theorem decode_retagged (body : Bytes) :
    (∀ (tag other : UInt64) (tx same : Transaction), tag ≠ other →
      decode (tagged tag body) = .ok tx → decode (tagged other body) = .ok same →
        (tag = 2 ∧ other = 8) ∨ (tag = 8 ∧ other = 2)) ∧
    (∀ tx, decode (tagged 2 body) = .ok tx →
      ∃ stake, Twin tx stake ∧ decode (tagged 8 body) = .ok stake) ∧
    (∀ stake, decode (tagged 8 body) = .ok stake →
      ∃ tx, Twin tx stake ∧ decode (tagged 2 body) = .ok tx) ∧
    ∀ tx stake, decode (tagged 2 body) = .ok tx → decode (tagged 8 body) = .ok stake →
      ∀ chain, ∃ front back,
        tx.unsigned.encode = .ok (2 :: back) ∧ stake.unsigned.encode = .ok (8 :: back) ∧
          tx.signBytes chain = .ok (front ++ 2 :: back) ∧
          stake.signBytes chain = .ok (front ++ 8 :: back) := by
  refine ⟨?_, ?_, ?_, ?_⟩
  · intro tag other tx same distinct read otherRead
    obtain ⟨kind, named, bodyRead⟩ := exists_kind_of_decode read
    obtain ⟨otherKind, otherNamed, otherBodyRead⟩ := exists_kind_of_decode otherRead
    obtain ⟨item, found, itemRead⟩ := readBody_eq_ok_iff.mp bodyRead
    obtain ⟨_, sameFound, otherItemRead⟩ := readBody_eq_ok_iff.mp otherBodyRead
    cases found.symm.trans sameFound
    have kinds : kind ≠ otherKind := by
      intro sameKind
      exact distinct (UInt64.toNat_inj.mp (by rw [← named, ← otherNamed, sameKind]))
    rcases kinds_of_ofBody kinds itemRead otherItemRead with ⟨rfl, rfl⟩ | ⟨rfl, rfl⟩
    · exact .inl ⟨UInt64.toNat_inj.mp named.symm, UInt64.toNat_inj.mp otherNamed.symm⟩
    · exact .inr ⟨UInt64.toNat_inj.mp named.symm, UInt64.toNat_inj.mp otherNamed.symm⟩
  · intro tx read
    exact exists_stake_of_decode read
  · intro stake read
    exact exists_transfer_of_decode read
  · intro tx stake read stakeRead chain
    obtain ⟨other, twin, otherRead⟩ := exists_stake_of_decode read
    obtain rfl : other = stake := Except.ok.inj (otherRead.symm.trans stakeRead)
    -- Only what can be written is read.
    have nonnegative := nonnegative_of_encode (encode_eq_ok_of_decode read)
    exact twin.exists_signBytes nonnegative chain

/-- A body with a fee, a slot and no payouts. -/
def movementBody : Bytes :=
  [0xE0, 0xC2, 0x01, 0x80, 0xDB, 0xDA, 0x94] ++ Bytes.zeros 20 ++
    [0xC2, 0x02, 0x80, 0x03, 0x07, 0xC0]

/-- The body is read as a transfer and as a stake, and what endorsers sign of the two differs in the
tag. -/
theorem decode_retagged_movementBody :
    let slot : Endorsement := ⟨.zero, ⟨2, 0⟩, 3, ⟨[7]⟩⟩
    let moved : Transaction := .transfer ⟨⟨1, 0⟩, [slot], []⟩
    let staked : Transaction := .stakeDeposit ⟨⟨1, 0⟩, [slot], []⟩
    (2 : UInt64) ≠ 8 ∧ decode (tagged 2 movementBody) = .ok moved ∧
      decode (tagged 8 movementBody) = .ok staked ∧
      ((2 : UInt64) = 2 ∧ (8 : UInt64) = 8 ∨ (2 : UInt64) = 8 ∧ (8 : UInt64) = 2) ∧
      Twin moved staked ∧
      ∃ front back, moved.signBytes "net" = .ok (front ++ 2 :: back) ∧
        staked.signBytes "net" = .ok (front ++ 8 :: back) := by
  intro slot moved staked
  obtain ⟨tags, twins, -, signed⟩ := decode_retagged movementBody
  -- The transfer is read from what it is written as.
  have read : decode (tagged 2 movementBody) = .ok moved :=
    decode_eq_ok_of_encode (by decide +kernel) (by decide +kernel)
  obtain ⟨stake, twin, stakeRead⟩ := twins moved read
  cases (show Twin (.transfer ⟨⟨1, 0⟩, [slot], []⟩) stake from twin)
  obtain ⟨front, back, -, -, octets, stakeOctets⟩ := signed moved staked read stakeRead "net"
  exact ⟨by decide, read, stakeRead, tags 2 8 moved staked (by decide) read stakeRead,
    .mk _ _ _, front, back, octets, stakeOctets⟩

end Transaction

end Countersign
