import Countersign.Transaction.Wire
import Countersign.Proofs.Rlp.Cursor
import Countersign.Proofs.Transaction.Parts

/-! The wire form of transactions: writing and reading are inverse, so every transaction that can
be written has exactly one wire form and every wire form is that of exactly one transaction. -/

namespace Countersign

namespace Rlp

/-- The body of an issuance obeys the laws of its fields. -/
theorem issuance_lawful : issuance.Lawful Issuance.integers :=
  -- The integers are those of the endorsement and of the payouts, in this order.
  ((endorsement_lawful.cons (payout_lawful.list.cons (Codec.word64_lawful.cons
    Fields.nil_lawful))).record (fun _ => rfl) (fun _ => rfl)).congr
      fun _ => by simp [Issuance.integers]

/-- The body of a penalty obeys the laws of its fields. -/
theorem slash_lawful : slash.Lawful Slash.integers :=
  -- Only the endorsement has integers that could be negative.
  ((endorsement_lawful.cons (address_lawful.cons (Codec.word64_lawful.cons
    (Codec.bytes_lawful.cons Fields.nil_lawful)))).record (fun _ => rfl) (fun _ => rfl)).congr
      fun _ => by simp [Slash.integers]

/-- A fee with slots and credits obeys the laws of its fields. -/
theorem movement_lawful : movement.Lawful fun value =>
    value.1.integers ++ (value.2.1.flatMap Endorsement.integers ++
      (value.2.2.1.flatMap Payout.integers ++ [])) :=
  -- The fee comes first, then the slots, then the credits.
  amount_lawful.cons (endorsement_lawful.list.cons (payout_lawful.list.cons Fields.nil_lawful))

/-- The body of a transfer obeys the laws of its fields. -/
theorem transfer_lawful : transfer.Lawful Transfer.integers :=
  -- Its integers are those of its three fields.
  (movement_lawful.record (fun _ => rfl) (fun _ => rfl)).congr
    fun _ => by simp [Transfer.integers]

/-- The body of a reserve obeys the laws of its fields. -/
theorem reserveFund_lawful : reserveFund.Lawful ReserveFund.integers :=
  -- The fee, the endorsement and the amount that is reserved.
  ((amount_lawful.cons (endorsement_lawful.cons (amount_lawful.cons
    (Codec.text_lawful.list.cons (Codec.word64_lawful.cons Fields.nil_lawful))))).record
      (fun _ => rfl) (fun _ => rfl)).congr fun _ => by simp [ReserveFund.integers]

/-- The body of a release obeys the laws of its fields. -/
theorem releaseFund_lawful : releaseFund.Lawful ReleaseFund.integers :=
  -- The fee and the endorsement.
  ((amount_lawful.cons (endorsement_lawful.cons (Codec.word64_lawful.cons
    Fields.nil_lawful))).record (fun _ => rfl) (fun _ => rfl)).congr
      fun _ => by simp [ReleaseFund.integers]

/-- The body of a service payment obeys the laws of its fields. -/
theorem servicePayment_lawful : servicePayment.Lawful ServicePayment.integers :=
  -- The fee, the source and the target.
  ((amount_lawful.cons (endorsement_lawful.cons (endorsement_lawful.cons
    (Codec.word64_lawful.cons (Codec.word64_lawful.cons (Codec.text_lawful.cons
      Fields.nil_lawful)))))).record (fun _ => rfl) (fun _ => rfl)).congr
        fun _ => by simp [ServicePayment.integers]

/-- The body of a rule for dividing revenue obeys the laws of its fields. -/
theorem splitRule_lawful : splitRule.Lawful SplitRule.integers :=
  -- The fee and the endorsement, since a split holds no integers.
  ((amount_lawful.cons (Codec.text_lawful.cons (endorsement_lawful.cons
    (split_lawful.list.cons (Codec.word64_lawful.cons Fields.nil_lawful))))).record
      (fun _ => rfl) (fun _ => rfl)).congr fun _ => by simp [SplitRule.integers]

/-- The body of a contract call obeys the laws of its fields. -/
theorem smartContract_lawful : smartContract.Lawful SmartContract.integers :=
  -- The endorsement, the payout and the integer between the word and the data.
  ((endorsement_lawful.cons (payout_lawful.cons (Codec.word64_lawful.cons
    (Codec.integer_lawful.cons (Codec.bytes_lawful.cons Fields.nil_lawful))))).record
      (fun _ => rfl) (fun _ => rfl)).congr fun _ => by simp [SmartContract.integers]

/-- The body of a stake obeys the laws of its fields. -/
theorem stakeDeposit_lawful : stakeDeposit.Lawful StakeDeposit.integers :=
  -- Its integers are those of its three fields.
  (movement_lawful.record (fun _ => rfl) (fun _ => rfl)).congr
    fun _ => by simp [StakeDeposit.integers]

end Rlp

/-- A tag stands for a kind exactly when it is the tag of that kind. -/
theorem Kind.ofTag?_eq_some_iff {tag : Nat} {kind : Kind} :
    Kind.ofTag? tag = some kind ↔ kind.tag = tag := by
  constructor
  · intro found
    simpa using List.find?_some found
  · intro tagged
    subst tagged
    -- No two kinds share a tag, so the first one found is the kind itself.
    cases kind <;> rfl

/-- A tag is the same number with sixty-four bits. -/
theorem Kind.toNat_tag (kind : Kind) : (UInt64.ofNat kind.tag).toNat = kind.tag := by
  -- No tag comes near the limit of a word.
  cases kind <;> rfl

namespace Transaction

open Rlp (Cursor EncodeError Item firstNegative)

/-- The item of a transaction's body. -/
def bodyItem : Transaction → Except EncodeError Item
  | .issuance body => Rlp.issuance.toItem body
  | .slash body => Rlp.slash.toItem body
  | .transfer body => Rlp.transfer.toItem body
  | .reserveFund body => Rlp.reserveFund.toItem body
  | .releaseFund body => Rlp.releaseFund.toItem body
  | .servicePayment body => Rlp.servicePayment.toItem body
  | .splitRule body => Rlp.splitRule.toItem body
  | .smartContract body => Rlp.smartContract.toItem body
  | .stakeDeposit body => Rlp.stakeDeposit.toItem body

/-- The body is written as its item is. -/
theorem writeBody_eq (tx : Transaction) : tx.writeBody = tx.bodyItem.map Item.write := by
  -- The codec of each kind makes both.
  cases tx <;> rfl

/-- A body has no item exactly when it holds a negative integer, and the first one is named. -/
theorem bodyItem_eq_error_iff {tx : Transaction} {negative : Int} :
    tx.bodyItem = .error (.negativeInteger negative) ↔
      firstNegative tx.integers = some negative := by
  -- One law of a codec for each kind.
  cases tx with
  | issuance body => exact Rlp.issuance_lawful.toItem_eq_error_iff
  | slash body => exact Rlp.slash_lawful.toItem_eq_error_iff
  | transfer body => exact Rlp.transfer_lawful.toItem_eq_error_iff
  | reserveFund body => exact Rlp.reserveFund_lawful.toItem_eq_error_iff
  | releaseFund body => exact Rlp.releaseFund_lawful.toItem_eq_error_iff
  | servicePayment body => exact Rlp.servicePayment_lawful.toItem_eq_error_iff
  | splitRule body => exact Rlp.splitRule_lawful.toItem_eq_error_iff
  | smartContract body => exact Rlp.smartContract_lawful.toItem_eq_error_iff
  | stakeDeposit body => exact Rlp.stakeDeposit_lawful.toItem_eq_error_iff

/-- The item of a body is read, under the kind of the transaction, as the transaction. -/
theorem ofBody_of_bodyItem {tx : Transaction} {item : Item} (made : tx.bodyItem = .ok item)
    (bounded : item.write.length < 2 ^ 64) : ofBody tx.kind item = .ok tx := by
  -- The kind chooses the codec that made the item.
  cases tx with
  | issuance body =>
    exact map_eq_ok_iff.mpr ⟨body, Rlp.issuance_lawful.ofItem_of_toItem made bounded, rfl⟩
  | slash body =>
    exact map_eq_ok_iff.mpr ⟨body, Rlp.slash_lawful.ofItem_of_toItem made bounded, rfl⟩
  | transfer body =>
    exact map_eq_ok_iff.mpr ⟨body, Rlp.transfer_lawful.ofItem_of_toItem made bounded, rfl⟩
  | reserveFund body =>
    exact map_eq_ok_iff.mpr ⟨body, Rlp.reserveFund_lawful.ofItem_of_toItem made bounded, rfl⟩
  | releaseFund body =>
    exact map_eq_ok_iff.mpr ⟨body, Rlp.releaseFund_lawful.ofItem_of_toItem made bounded, rfl⟩
  | servicePayment body =>
    exact map_eq_ok_iff.mpr ⟨body, Rlp.servicePayment_lawful.ofItem_of_toItem made bounded, rfl⟩
  | splitRule body =>
    exact map_eq_ok_iff.mpr ⟨body, Rlp.splitRule_lawful.ofItem_of_toItem made bounded, rfl⟩
  | smartContract body =>
    exact map_eq_ok_iff.mpr ⟨body, Rlp.smartContract_lawful.ofItem_of_toItem made bounded, rfl⟩
  | stakeDeposit body =>
    exact map_eq_ok_iff.mpr ⟨body, Rlp.stakeDeposit_lawful.ofItem_of_toItem made bounded, rfl⟩

/-- An item that is read under a kind is the body of a transaction of that kind. -/
theorem bodyItem_of_ofBody {kind : Kind} {item : Item} {tx : Transaction}
    (read : ofBody kind item = .ok tx) : tx.kind = kind ∧ tx.bodyItem = .ok item := by
  -- The kind chooses the codec that reads the item.
  cases kind with
  | issuance =>
    obtain ⟨body, bodyRead, rfl⟩ := map_eq_ok_iff.mp read
    exact ⟨rfl, Rlp.issuance_lawful.toItem_of_ofItem bodyRead⟩
  | slash =>
    obtain ⟨body, bodyRead, rfl⟩ := map_eq_ok_iff.mp read
    exact ⟨rfl, Rlp.slash_lawful.toItem_of_ofItem bodyRead⟩
  | transfer =>
    obtain ⟨body, bodyRead, rfl⟩ := map_eq_ok_iff.mp read
    exact ⟨rfl, Rlp.transfer_lawful.toItem_of_ofItem bodyRead⟩
  | reserveFund =>
    obtain ⟨body, bodyRead, rfl⟩ := map_eq_ok_iff.mp read
    exact ⟨rfl, Rlp.reserveFund_lawful.toItem_of_ofItem bodyRead⟩
  | releaseFund =>
    obtain ⟨body, bodyRead, rfl⟩ := map_eq_ok_iff.mp read
    exact ⟨rfl, Rlp.releaseFund_lawful.toItem_of_ofItem bodyRead⟩
  | servicePayment =>
    obtain ⟨body, bodyRead, rfl⟩ := map_eq_ok_iff.mp read
    exact ⟨rfl, Rlp.servicePayment_lawful.toItem_of_ofItem bodyRead⟩
  | splitRule =>
    obtain ⟨body, bodyRead, rfl⟩ := map_eq_ok_iff.mp read
    exact ⟨rfl, Rlp.splitRule_lawful.toItem_of_ofItem bodyRead⟩
  | smartContract =>
    obtain ⟨body, bodyRead, rfl⟩ := map_eq_ok_iff.mp read
    exact ⟨rfl, Rlp.smartContract_lawful.toItem_of_ofItem bodyRead⟩
  | stakeDeposit =>
    obtain ⟨body, bodyRead, rfl⟩ := map_eq_ok_iff.mp read
    exact ⟨rfl, Rlp.stakeDeposit_lawful.toItem_of_ofItem bodyRead⟩

/-- The tag of a kind is the integer in front of the body. -/
theorem write_tag (kind : Kind) :
    Rlp.Codec.word64.write (UInt64.ofNat kind.tag) = .ok (tagItem kind) := by
  -- A word is never negative, so it is always written.
  cases kind <;> rfl

/-- A tag takes one octet. -/
theorem length_tagItem (kind : Kind) : (tagItem kind).length = 1 := by
  -- Tags are below the range of headers.
  cases kind <;> decide +kernel

/-- A transaction is written as its tag in front of its body's item. -/
theorem encode_eq_ok_iff {tx : Transaction} {wire : Bytes} :
    tx.encode = .ok wire ↔
      ∃ item, tx.bodyItem = .ok item ∧ wire = tagItem tx.kind ++ item.write := by
  -- Writing the tag never fails, so the body decides.
  rw [encode, writeBody_eq, map_eq_ok_iff]
  constructor
  · intro written
    obtain ⟨body, bodyWritten, rfl⟩ := written
    obtain ⟨item, made, rfl⟩ := map_eq_ok_iff.mp bodyWritten
    exact ⟨item, made, rfl⟩
  · intro laidOut
    obtain ⟨item, made, rfl⟩ := laidOut
    exact ⟨item.write, map_eq_ok_iff.mpr ⟨item, made, rfl⟩, rfl⟩

/-- A transaction cannot be written exactly when it holds a negative integer. -/
theorem encode_eq_error_iff {tx : Transaction} {negative : Int} :
    tx.encode = .error (.negativeInteger negative) ↔
      firstNegative tx.integers = some negative := by
  -- The tag is always written.
  rw [encode, map_eq_error_iff, writeBody_eq, map_eq_error_iff, bodyItem_eq_error_iff]

/-- A transaction without negative integers can be written. -/
theorem exists_encode {tx : Transaction} (nonnegative : ∀ value ∈ tx.integers, 0 ≤ value) :
    ∃ wire, tx.encode = .ok wire := by
  -- The only error would name a negative integer.
  cases written : tx.encode with
  | ok wire => exact ⟨wire, rfl⟩
  | error error =>
    obtain ⟨negative⟩ := error
    have found := encode_eq_error_iff.mp written
    rw [Rlp.firstNegative_eq_none_iff.mpr nonnegative] at found
    cases found

/-- A transaction that is written holds no negative integer. -/
theorem nonnegative_of_encode {tx : Transaction} {wire : Bytes} (written : tx.encode = .ok wire) :
    ∀ value ∈ tx.integers, 0 ≤ value := by
  rw [← Rlp.firstNegative_eq_none_iff]
  cases found : Rlp.firstNegative tx.integers with
  | none => rfl
  | some negative =>
    -- A negative integer would have been the error.
    rw [encode_eq_error_iff.mpr found] at written
    cases written

/-- Octets are read as a transaction exactly when they are its tag and its body's item. -/
theorem decode_eq_ok_iff {tx : Transaction} {wire : Bytes} :
    decode wire = .ok tx ↔
      ∃ item, tx.bodyItem = .ok item ∧ item.write.length < 2 ^ 64 ∧
        wire = tagItem tx.kind ++ item.write := by
  constructor
  -- The tag, its kind, the item, the body in it and the end of the data, step by step.
  · intro read
    cases tagOutcome : (Cursor.ofBytes wire).read Rlp.Codec.word64 with
    | mk tagRead behind =>
      rw [decode, tagOutcome] at read
      obtain ⟨tag, tagFound, afterTag⟩ := bind_eq_ok_iff.mp read
      obtain rfl : tagRead = .ok tag := tagFound
      obtain ⟨tagged, tagNext, tagValue⟩ := Cursor.read_eq_ok_iff.mp tagOutcome
      obtain ⟨tagLayout, -, -⟩ := Cursor.next_eq_ok_iff.mp tagNext
      split at afterTag
      · cases afterTag
      · rename_i kind kindFound
        obtain ⟨⟨item, left⟩, itemNext, afterItem⟩ := bind_eq_ok_iff.mp afterTag
        obtain ⟨found, bodyRead, afterBody⟩ := bind_eq_ok_iff.mp afterItem
        obtain ⟨_, finished, made⟩ := bind_eq_ok_iff.mp afterBody
        cases made
        obtain ⟨layout, bounded, -⟩ := Cursor.next_eq_ok_iff.mp itemNext
        -- The item is the one that the body makes again, by the law of its codec.
        obtain ⟨rfl, itemMade⟩ := bodyItem_of_ofBody bodyRead
        refine ⟨item, itemMade, bounded, ?_⟩
        rw [Cursor.finish_eq_ok_iff.mp finished, List.append_nil] at layout
        rw [Rlp.Codec.word64_ofItem_eq_ok_iff.mp tagValue,
          ← Kind.ofTag?_eq_some_iff.mp kindFound] at tagLayout
        rw [← layout]
        exact tagLayout
  · intro laidOut
    obtain ⟨item, made, bounded, rfl⟩ := laidOut
    -- The tag is read back, and names the kind it was written for.
    have tagOutcome := Cursor.read_of_write Rlp.Codec.word64_lawful (write_tag tx.kind)
      (by rw [length_tagItem]; omega) item.write false
    have kindFound : Kind.ofTag? (UInt64.ofNat tx.kind.tag).toNat = some tx.kind := by
      rw [Kind.toNat_tag, Kind.ofTag?_eq_some_iff]
    have itemNext : (Cursor.mk item.write false).next = .ok (item, Cursor.mk [] false) :=
      Cursor.next_eq_ok_iff.mpr ⟨(List.append_nil _).symm, bounded, rfl⟩
    simp only [decode, Cursor.ofBytes, tagOutcome, kindFound, itemNext,
      ofBody_of_bodyItem made bounded, bind, Except.bind]
    rfl

/-- What a transaction is written as reads back as the transaction. -/
theorem decode_eq_ok_of_encode {tx : Transaction} {wire : Bytes} (written : tx.encode = .ok wire)
    (bounded : wire.length < 2 ^ 64) : decode wire = .ok tx := by
  obtain ⟨item, made, layout⟩ := encode_eq_ok_iff.mp written
  -- The item is a part of the wire form, so the bound is enough for it.
  have inside : item.write.length ≤ wire.length := by
    rw [layout, List.length_append]
    omega
  exact decode_eq_ok_iff.mpr ⟨item, made, by omega, layout⟩

/-- What reads as a transaction is what the transaction is written as. -/
theorem encode_eq_ok_of_decode {tx : Transaction} {wire : Bytes} (read : decode wire = .ok tx) :
    tx.encode = .ok wire := by
  obtain ⟨item, made, -, layout⟩ := decode_eq_ok_iff.mp read
  -- Reading has found the item that writing makes.
  exact encode_eq_ok_iff.mpr ⟨item, made, layout⟩

/-- Every transaction without negative integers is written, and what is written of a transaction
reads back as that transaction and is written of no other. -/
theorem decode_of_encode (tx : Transaction) :
    ((∀ value ∈ tx.integers, 0 ≤ value) → ∃ wire, tx.encode = .ok wire) ∧
      ∀ wire, tx.encode = .ok wire → wire.length < 2 ^ 63 →
        decode wire = .ok tx ∧ ∀ other : Transaction, other.encode = .ok wire → other = tx := by
  refine ⟨exists_encode, ?_⟩
  intro wire written bounded
  have read := decode_eq_ok_of_encode written (by omega)
  refine ⟨read, ?_⟩
  intro other otherWritten
  -- One reading cannot give two transactions.
  have otherRead := decode_eq_ok_of_encode otherWritten (by omega)
  exact Except.ok.inj (otherRead.symm.trans read)

/-- A release with integers on both sides of the bounds where their written forms grow. -/
def boundaryRelease : Transaction :=
  -- The last field is zero, whose written form is the empty string.
  .releaseFund {
    fee := ⟨127, 128⟩
    source := ⟨.zero, ⟨255, 256⟩, 18446744073709551615, ⟨[0x7F]⟩⟩
    reserveSequence := 0 }

/-- The wire form of that release. -/
def boundaryWire : Bytes :=
  [0x04, 0xEB, 0xC3, 0x7F, 0x81, 0x80, 0xE5, 0x94] ++ Bytes.zeros 20 ++
    [0xC5, 0x81, 0xFF, 0x82, 0x01, 0x00, 0x88, 0xFF, 0xFF, 0xFF, 0xFF, 0xFF, 0xFF, 0xFF, 0xFF,
      0x7F, 0x80]

/-- The release is written in this way, reads back, and shares its wire form with no other. -/
theorem decode_of_encode_boundaryRelease :
    (∀ value ∈ boundaryRelease.integers, 0 ≤ value) ∧
      (∃ wire, boundaryRelease.encode = .ok wire) ∧
      boundaryRelease.encode = .ok boundaryWire ∧ boundaryWire.length < 2 ^ 63 ∧
      decode boundaryWire = .ok boundaryRelease ∧
      ∀ other : Transaction, other.encode = .ok boundaryWire → other = boundaryRelease := by
  -- Only the wire form is computed. That it is read back and by what follows.
  have nonnegative : ∀ value ∈ boundaryRelease.integers, 0 ≤ value := by decide
  have written : boundaryRelease.encode = .ok boundaryWire := by decide +kernel
  have bounded : boundaryWire.length < 2 ^ 63 := by decide
  obtain ⟨succeeds, reads⟩ := decode_of_encode boundaryRelease
  exact ⟨nonnegative, succeeds nonnegative, written, bounded, reads boundaryWire written bounded⟩

/-- Whatever is read as a transaction is the wire form of that transaction, and nothing else reads
as the same transaction. -/
theorem encode_of_decode {wire : Bytes} {tx : Transaction} (read : decode wire = .ok tx) :
    tx.encode = .ok wire ∧ ∀ other : Bytes, decode other = .ok tx → other = wire := by
  have written := encode_eq_ok_of_decode read
  refine ⟨written, ?_⟩
  intro other otherRead
  -- A transaction cannot be written in two ways.
  have otherWritten := encode_eq_ok_of_decode otherRead
  exact Except.ok.inj (otherWritten.symm.trans written)

/-- The wire form of the release is read, so it is what the release is written as. -/
theorem encode_of_decode_boundaryWire :
    decode boundaryWire = .ok boundaryRelease ∧ boundaryRelease.encode = .ok boundaryWire ∧
      ∀ other : Bytes, decode other = .ok boundaryRelease → other = boundaryWire := by
  -- Only the read is computed.
  have read : decode boundaryWire = .ok boundaryRelease := by decide +kernel
  exact ⟨read, encode_of_decode read⟩

end Transaction

end Countersign
