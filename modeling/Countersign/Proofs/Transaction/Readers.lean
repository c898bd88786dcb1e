import Countersign.Proofs.Rlp.Reader
import Countersign.Proofs.Transaction.Arity
import Countersign.Transaction.Readers

/-! Reading a part of a transaction passes one item, whatever becomes of it: an error inside a
record leaves the cursor before what stands behind the record. -/

namespace Countersign

open Rlp (Codec Cursor DecodeError Item Reader)

namespace Rlp.Reader

/-- An address is judged as the item of its string. -/
theorem address_passes : address.Passes Rlp.address.ofItem := by
  refine (Passes.bind bytes_passes (fun content => (FixedBytes.ofBytes? content).elim
    (.error (.invalidAddressLength content.length)) .ok) ?_).congr fun item => ?_
  · intro _ content _ cursor
    -- Behind the first check of the length the second one cannot fail.
    by_cases whole : content.length = 20
    · have found : (FixedBytes.ofBytes? content : Option Address) = some ⟨content, whole⟩ :=
        dif_pos whole
      simp only [whole, found]
      rfl
    · have failed : (FixedBytes.ofBytes? content : Option Address) = none := dif_neg whole
      simp only [if_pos whole, failed]
      rfl
  · cases item with
    | list payload => rfl
    | octets content =>
      simp only [Rlp.address, Item.content, Bind.bind, Except.bind]
      cases (FixedBytes.ofBytes? content : Option Address) <;> rfl

/-- A signature is judged as the item of its string. -/
theorem signature_passes : signature.Passes Rlp.signature.ofItem := by
  -- Any string will do, so only the form of the item is judged.
  refine (Passes.bind bytes_passes (fun content => .ok ⟨content⟩) ?_).congr fun item => ?_
  · intro _ content _ cursor
    rfl
  · cases item <;> rfl

/-- A balance is judged as the list of its components. -/
theorem amount_passes : amount.Passes Rlp.amount.ofItem := by
  unfold amount Rlp.amount
  apply Collects.record
  -- Every field takes the item that its codec would.
  refine Passes.collects integer_passes fun _ => ?_
  refine Passes.collects integer_passes fun _ => ?_
  exact pure_collects rfl

/-- An endorsement is judged as the list of its fields. -/
theorem endorsement_passes : endorsement.Passes Rlp.endorsement.ofItem := by
  unfold endorsement Rlp.endorsement
  apply Collects.record
  -- The fields are read in the order in which they are written.
  refine Passes.collects address_passes fun _ => ?_
  refine Passes.collects amount_passes fun _ => ?_
  refine Passes.collects word64_passes fun _ => ?_
  refine Passes.collects signature_passes fun _ => ?_
  exact pure_collects rfl

/-- A payout is judged as the list of its fields. -/
theorem payout_passes : payout.Passes Rlp.payout.ofItem := by
  unfold payout Rlp.payout
  apply Collects.record
  -- The two fields are read in their order.
  refine Passes.collects address_passes fun _ => ?_
  refine Passes.collects amount_passes fun _ => ?_
  exact pure_collects rfl

/-- A split is judged as the list of its fields. -/
theorem split_passes : split.Passes Rlp.split.ofItem := by
  unfold split Rlp.split
  apply Collects.record
  -- The two fields are read in their order.
  refine Passes.collects address_passes fun _ => ?_
  refine Passes.collects word32_passes fun _ => ?_
  exact pure_collects rfl

/-- The body of an issuance is judged as the list of its fields. -/
theorem issuance_passes : issuance.Passes Rlp.issuance.ofItem := by
  unfold issuance Rlp.issuance
  apply Collects.record
  refine Passes.collects endorsement_passes fun _ => ?_
  -- The payouts are a list of their own, which is one item here.
  refine Passes.collects (list_passes payout_passes) fun _ => ?_
  refine Passes.collects word64_passes fun _ => ?_
  exact pure_collects rfl

/-- The body of a penalty is judged as the list of its fields. -/
theorem slash_passes : slash.Passes Rlp.slash.ofItem := by
  unfold slash Rlp.slash
  apply Collects.record
  -- The fields are read in their order.
  refine Passes.collects endorsement_passes fun _ => ?_
  refine Passes.collects address_passes fun _ => ?_
  refine Passes.collects word64_passes fun _ => ?_
  refine Passes.collects bytes_passes fun _ => ?_
  exact pure_collects rfl

/-- A fee with slots and credits is read as whatever is made of it. -/
theorem movement_passes {α : Type} (make : Amount × List Endorsement × List Payout → α)
    {unpack : α → Amount × List Endorsement × List Payout × Unit} :
    (movement >>= fun value => pure (make value)).Passes
      (Rlp.movement.record (fun fields => make (fields.1, fields.2.1, fields.2.2.1))
        unpack).ofItem := by
  -- The three fields are read first, and then put together without reading any more.
  have fields : movement.Passes (Rlp.movement.record
      (fun fields => (fields.1, fields.2.1, fields.2.2.1))
      (fun value => (value.1, value.2.1, value.2.2, ()))).ofItem := by
    unfold movement Rlp.movement
    apply Collects.record
    refine Passes.collects amount_passes fun _ => ?_
    refine Passes.collects (list_passes endorsement_passes) fun _ => ?_
    refine Passes.collects (list_passes payout_passes) fun _ => ?_
    exact pure_collects rfl
  refine (fields.bind (fun value => .ok (make value)) ?_).congr ?_
  · intro _ value _ cursor
    rfl
  · exact Fields.ofItem_record_bind fun _ => rfl

/-- The body of a transfer is judged as the list of its fields. -/
theorem transfer_passes : transfer.Passes Rlp.transfer.ofItem :=
  -- A transfer is put together from a fee, slots and credits.
  movement_passes fun value => Transfer.mk value.1 value.2.1 value.2.2

/-- The body of a reserve is judged as the list of its fields. -/
theorem reserveFund_passes : reserveFund.Passes Rlp.reserveFund.ofItem := by
  unfold reserveFund Rlp.reserveFund
  apply Collects.record
  -- The texts are a list of their own, which is one item here.
  refine Passes.collects amount_passes fun _ => ?_
  refine Passes.collects endorsement_passes fun _ => ?_
  refine Passes.collects amount_passes fun _ => ?_
  refine Passes.collects (list_passes text_passes) fun _ => ?_
  refine Passes.collects word64_passes fun _ => ?_
  exact pure_collects rfl

/-- The body of a release is judged as the list of its fields. -/
theorem releaseFund_passes : releaseFund.Passes Rlp.releaseFund.ofItem := by
  unfold releaseFund Rlp.releaseFund
  apply Collects.record
  -- The fields are read in their order.
  refine Passes.collects amount_passes fun _ => ?_
  refine Passes.collects endorsement_passes fun _ => ?_
  refine Passes.collects word64_passes fun _ => ?_
  exact pure_collects rfl

/-- The body of a service payment is judged as the list of its fields. -/
theorem servicePayment_passes : servicePayment.Passes Rlp.servicePayment.ofItem := by
  unfold servicePayment Rlp.servicePayment
  apply Collects.record
  -- The source is read before the target.
  refine Passes.collects amount_passes fun _ => ?_
  refine Passes.collects endorsement_passes fun _ => ?_
  refine Passes.collects endorsement_passes fun _ => ?_
  refine Passes.collects word64_passes fun _ => ?_
  refine Passes.collects word64_passes fun _ => ?_
  refine Passes.collects text_passes fun _ => ?_
  exact pure_collects rfl

/-- The body of a rule for dividing revenue is judged as the list of its fields. -/
theorem splitRule_passes : splitRule.Passes Rlp.splitRule.ofItem := by
  unfold splitRule Rlp.splitRule
  apply Collects.record
  -- The splits are a list of their own, which is one item here.
  refine Passes.collects amount_passes fun _ => ?_
  refine Passes.collects text_passes fun _ => ?_
  refine Passes.collects endorsement_passes fun _ => ?_
  refine Passes.collects (list_passes split_passes) fun _ => ?_
  refine Passes.collects word64_passes fun _ => ?_
  exact pure_collects rfl

/-- The body of a contract call is judged as the list of its fields. -/
theorem smartContract_passes : smartContract.Passes Rlp.smartContract.ofItem := by
  unfold smartContract Rlp.smartContract
  apply Collects.record
  -- The fields are read in their order.
  refine Passes.collects endorsement_passes fun _ => ?_
  refine Passes.collects payout_passes fun _ => ?_
  refine Passes.collects word64_passes fun _ => ?_
  refine Passes.collects integer_passes fun _ => ?_
  refine Passes.collects bytes_passes fun _ => ?_
  exact pure_collects rfl

/-- The body of a stake is judged as the list of its fields. -/
theorem stakeDeposit_passes : stakeDeposit.Passes Rlp.stakeDeposit.ofItem :=
  -- A stake is put together from a fee, slots and credits.
  movement_passes fun value => StakeDeposit.mk value.1 value.2.1 value.2.2

end Rlp.Reader

namespace Layout

/-- The reader of the records. -/
def reader : (layout : Layout) → Reader layout.Value
  | .amount => Reader.amount
  | .endorsement => Reader.endorsement
  | .payout => Reader.payout
  | .split => Reader.split
  | .bodyOf kind => kind.reader

/-- Every record is judged as the list of its fields. -/
theorem reader_passes (layout : Layout) : layout.reader.Passes layout.codec.ofItem := by
  -- One lemma for each layout.
  cases layout with
  | amount => exact Reader.amount_passes
  | endorsement => exact Reader.endorsement_passes
  | payout => exact Reader.payout_passes
  | split => exact Reader.split_passes
  | bodyOf kind =>
    cases kind with
    | issuance => exact Reader.issuance_passes
    | slash => exact Reader.slash_passes
    | transfer => exact Reader.transfer_passes
    | reserveFund => exact Reader.reserveFund_passes
    | releaseFund => exact Reader.releaseFund_passes
    | servicePayment => exact Reader.servicePayment_passes
    | splitRule => exact Reader.splitRule_passes
    | smartContract => exact Reader.smartContract_passes
    | stakeDeposit => exact Reader.stakeDeposit_passes

/-- Every record obeys the laws of codecs. -/
theorem exists_lawful (layout : Layout) : ∃ integers, layout.codec.Lawful integers := by
  -- One law for each layout, with integers of its own.
  cases layout with
  | amount => exact ⟨_, Rlp.amount_lawful⟩
  | endorsement => exact ⟨_, Rlp.endorsement_lawful⟩
  | payout => exact ⟨_, Rlp.payout_lawful⟩
  | split => exact ⟨_, Rlp.split_lawful⟩
  | bodyOf kind =>
    cases kind with
    | issuance => exact ⟨_, Rlp.issuance_lawful⟩
    | slash => exact ⟨_, Rlp.slash_lawful⟩
    | transfer => exact ⟨_, Rlp.transfer_lawful⟩
    | reserveFund => exact ⟨_, Rlp.reserveFund_lawful⟩
    | releaseFund => exact ⟨_, Rlp.releaseFund_lawful⟩
    | servicePayment => exact ⟨_, Rlp.servicePayment_lawful⟩
    | splitRule => exact ⟨_, Rlp.splitRule_lawful⟩
    | smartContract => exact ⟨_, Rlp.smartContract_lawful⟩
    | stakeDeposit => exact ⟨_, Rlp.stakeDeposit_lawful⟩

end Layout

/-- What a read makes of the next item: one of the plain values, a record, or a list of such. -/
inductive Shape where
  | bytes
  | word64
  | word32
  | integer
  | text
  | address
  | signature
  | record (layout : Layout)
  | listOf (element : Shape)

namespace Shape

/-- The type of the values. -/
def Value : Shape → Type
  | .bytes => Bytes
  | .word64 => UInt64
  | .word32 => UInt32
  | .integer => Int
  | .text => String
  | .address => Address
  | .signature => Signature
  | .record layout => layout.Value
  | .listOf element => List element.Value

/-- The codec of the values. -/
def codec : (shape : Shape) → Codec shape.Value
  | .bytes => Codec.bytes
  | .word64 => Codec.word64
  | .word32 => Codec.word32
  | .integer => Codec.integer
  | .text => Codec.text
  | .address => Rlp.address
  | .signature => Rlp.signature
  | .record layout => layout.codec
  | .listOf element => element.codec.list

/-- The reader of the values. -/
def reader : (shape : Shape) → Reader shape.Value
  | .bytes => Reader.bytes
  | .word64 => Reader.word64
  | .word32 => Reader.word32
  | .integer => Reader.integer
  | .text => Reader.text
  | .address => Reader.address
  | .signature => Reader.signature
  | .record layout => layout.reader
  | .listOf element => Reader.list element.reader

/-- Every read passes one item and judges it as the codec does. -/
theorem reader_passes (shape : Shape) : shape.reader.Passes shape.codec.ofItem := by
  -- Lists are the one shape that has another inside.
  induction shape with
  | bytes => exact Reader.bytes_passes
  | word64 => exact Reader.word64_passes
  | word32 => exact Reader.word32_passes
  | integer => exact Reader.integer_passes
  | text => exact Reader.text_passes
  | address => exact Reader.address_passes
  | signature => exact Reader.signature_passes
  | record layout => exact layout.reader_passes
  | listOf element ih => exact Reader.list_passes ih

/-- Every shape obeys the laws of codecs. -/
theorem exists_lawful (shape : Shape) : ∃ integers, shape.codec.Lawful integers := by
  -- A list has the integers of its elements.
  induction shape with
  | bytes => exact ⟨_, Codec.bytes_lawful⟩
  | word64 => exact ⟨_, Codec.word64_lawful⟩
  | word32 => exact ⟨_, Codec.word32_lawful⟩
  | integer => exact ⟨_, Codec.integer_lawful⟩
  | text => exact ⟨_, Codec.text_lawful⟩
  | address => exact ⟨_, Rlp.address_lawful⟩
  | signature => exact ⟨_, Rlp.signature_lawful⟩
  | record layout => exact layout.exists_lawful
  | listOf element ih =>
    obtain ⟨integers, lawful⟩ := ih
    exact ⟨_, lawful.list⟩

/-- The elements that are read from a list are written as its payload. -/
theorem writeAll_of_read_list {shape : Shape} {cursor behind : Cursor} {values : List shape.Value}
    (read : (Reader.list shape.reader).runAt cursor = some (.ok values, behind)) :
    ∃ payload, cursor.next = .ok (.list payload, behind) ∧
      shape.codec.writeAll values = .ok payload := by
  obtain ⟨item, found, judged⟩ := (Reader.list_passes shape.reader_passes).runAt_eq_ok_iff.mp read
  -- The list has been judged by its payload, which is read to the end.
  obtain ⟨payload, payloadRead, valuesRead⟩ := bind_eq_ok_iff.mp judged
  obtain rfl := Item.payload_eq_ok_iff.mp payloadRead
  obtain ⟨integers, lawful⟩ := shape.exists_lawful
  exact ⟨payload, found, Codec.writeAll_of_readAll lawful valuesRead⟩

/-- Where a bad header stands, or nothing, no read moves. Elsewhere every read moves past the one
item that stands there, whether or not that item is what it looks for. So the elements of a list run
out, and those that are read from one are its whole payload. -/
theorem reads_pass_one_item (cursor : Cursor) :
    (∀ error, cursor.next = .error error →
      Reader.enter.runAt cursor = some (.error error, cursor) ∧
        ∀ shape : Shape, shape.reader.runAt cursor = some (.error error, cursor)) ∧
    (∀ item behind, cursor.next = .ok (item, behind) →
      cursor.data = item.write ++ behind.data ∧ behind.inList = cursor.inList ∧
        Reader.enter.runAt cursor = some (item.payload.map Cursor.ofPayload, behind) ∧
          ∀ shape : Shape, shape.reader.runAt cursor = some (shape.codec.ofItem item, behind)) ∧
    ∀ shape : Shape,
      (∀ value behind, shape.reader.runAt cursor = some (.ok value, behind) →
        behind.data.length < cursor.data.length) ∧
      (∀ payload, ∃ outcome last,
        (Reader.elements shape.reader).runAt (.ofPayload payload) = some (outcome, last)) ∧
      ∀ values behind, (Reader.list shape.reader).runAt cursor = some (.ok values, behind) →
        ∃ payload, cursor.next = .ok (.list payload, behind) ∧
          shape.codec.writeAll values = .ok payload := by
  refine ⟨?_, ?_, ?_⟩
  -- Nothing is passed: the error is that of the header.
  · intro error failed
    refine ⟨?_, fun shape => ?_⟩
    · rw [Reader.enter_passes, failed]
    · rw [shape.reader_passes, failed]
  -- The item is passed before it is judged.
  · intro item behind found
    obtain ⟨layout, -, same⟩ := Cursor.next_eq_ok_iff.mp found
    refine ⟨layout, same, ?_, fun shape => ?_⟩
    · rw [Reader.enter_passes, found]
    · rw [shape.reader_passes, found]
  · intro shape
    refine ⟨?_, ?_, ?_⟩
    -- An item has at least one octet, so elements cannot go on for ever.
    · intro value behind read
      exact Reader.Passes.shortens shape.reader_passes read
    · intro payload
      obtain ⟨last, ran⟩ := Reader.elements_endsAt shape.reader_passes payload
      exact ⟨_, last, ran⟩
    · intro values behind read
      exact writeAll_of_read_list read

/-- A balance with a bad component is passed with its error, words are read up to the end of their
list, and a header without its payload stays where it is. -/
theorem reads_pass_one_item_malformed :
    Reader.amount.runAt ⟨[0xC1, 0x00, 0x07], true⟩ =
        some (.error .nonCanonicalInteger, ⟨[0x07], true⟩) ∧
      (Reader.list Reader.word64).runAt ⟨[0xC2, 0x01, 0x02, 0x07], false⟩ =
        some (.ok [1, 2], ⟨[0x07], false⟩) ∧
      Codec.word64.writeAll [1, 2] = .ok [0x01, 0x02] ∧
      (Reader.list Reader.text).runAt ⟨[0xC1], true⟩ =
        some (.error .unexpectedEnd, ⟨[0xC1], true⟩) := by
  -- The words are read from their written form by the law of their codec.
  have wordsRead : Codec.word64.list.ofItem (.list [0x01, 0x02]) = .ok [1, 2] :=
    Codec.word64_lawful.list.ofItem_of_toItem (by decide +kernel) (by decide)
  -- The component begins with a zero, and the cursor is behind the balance all the same.
  obtain ⟨-, passesBad, -⟩ := reads_pass_one_item ⟨[0xC1, 0x00, 0x07], true⟩
  obtain ⟨-, -, -, bad⟩ := passesBad (.list [0x00]) ⟨[0x07], true⟩ rfl
  obtain ⟨-, passesWords, last⟩ := reads_pass_one_item ⟨[0xC2, 0x01, 0x02, 0x07], false⟩
  obtain ⟨-, -, -, words⟩ := passesWords (.list [0x01, 0x02]) ⟨[0x07], false⟩ rfl
  have two : (Reader.list Reader.word64).runAt ⟨[0xC2, 0x01, 0x02, 0x07], false⟩ =
      some (.ok [1, 2], ⟨[0x07], false⟩) := by
    rw [← wordsRead]
    exact words (listOf .word64)
  -- What the two words are written as is the payload of the list.
  obtain ⟨-, -, whole⟩ := last .word64
  obtain ⟨payload, found, written⟩ := whole _ _ two
  cases found
  obtain ⟨stays, -⟩ := reads_pass_one_item ⟨[0xC1], true⟩
  exact ⟨bad (record .amount), two, written, (stays .unexpectedEnd rfl).2 (listOf .text)⟩

end Shape

end Countersign
