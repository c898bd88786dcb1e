import Countersign.Proofs.Rlp.Codec
import Countersign.Proofs.Transaction.Integers

/-! The records that transactions are made of obey the laws of codecs. -/

namespace Countersign.Rlp

/-- An address holds no integers and is told by its octets. -/
theorem address_lawful : address.Lawful fun _ => [] where
  toItem_eq_error_iff := by simp [address, firstNegative]
  ofItem_of_toItem {value item} written _ := by
    cases written
    -- An address has the length that is tested.
    simp only [address, Item.content, bind, Except.bind, FixedBytes.ofBytes?,
      dif_pos value.length_toBytes]
    rfl
  toItem_of_ofItem {value item} read := by
    obtain ⟨content, contentRead, checked⟩ := bind_eq_ok_iff.mp read
    obtain rfl := Item.content_eq_ok_iff.mp contentRead
    unfold FixedBytes.ofBytes? at checked
    -- Only twenty octets are read, and they are kept as they are.
    by_cases exact : content.length = 20
    · simp only [dif_pos exact] at checked
      cases checked
      rfl
    · simp only [dif_neg exact] at checked
      cases checked

/-- A balance holds its two components. -/
theorem amount_lawful : amount.Lawful Amount.integers :=
  -- Its two components are the fields of a record.
  (Codec.integer_lawful.cons (Codec.integer_lawful.cons Fields.nil_lawful)).record
    (fun _ => rfl) (fun _ => rfl)

/-- A signature holds no integers and is told by its octets. -/
theorem signature_lawful : signature.Lawful fun _ => [] :=
  -- It is a string of any length.
  Codec.bytes_lawful.iso (fun _ => rfl) (fun _ => rfl)

/-- An endorsement holds the integers of its amount. -/
theorem endorsement_lawful : endorsement.Lawful Endorsement.integers :=
  -- Of the four fields only the balance has integers that could be negative.
  ((address_lawful.cons (amount_lawful.cons (Codec.word64_lawful.cons
    (signature_lawful.cons Fields.nil_lawful)))).record (fun _ => rfl) (fun _ => rfl)).congr
      fun _ => by simp [Endorsement.integers]

/-- A payout holds the integers of its amount. -/
theorem payout_lawful : payout.Lawful Payout.integers :=
  -- An address in front adds no integers.
  ((address_lawful.cons (amount_lawful.cons Fields.nil_lawful)).record
    (fun _ => rfl) (fun _ => rfl)).congr fun _ => by simp [Payout.integers]

/-- A split holds no integers that could be negative. -/
theorem split_lawful : split.Lawful fun _ => [] :=
  -- Neither of the fields can be negative.
  (address_lawful.cons (Codec.word32_lawful.cons Fields.nil_lawful)).record
    (fun _ => rfl) (fun _ => rfl)

end Countersign.Rlp
