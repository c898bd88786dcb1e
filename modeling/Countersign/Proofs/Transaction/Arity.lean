import Countersign.Proofs.Rlp.Arity
import Countersign.Proofs.Transaction.Framing
import Countersign.Transaction.Bodies

/-! The number of fields of every record: a list of fewer elements, or one with anything behind its
last field, is refused by the name of what is wrong with it, by itself and as a body behind its
tag. -/

namespace Countersign

open Rlp (Codec Cursor DecodeError EncodeError Item)

/-- The records that stand as lists: the parts of transactions, and the bodies of each kind. -/
inductive Layout where
  | amount
  | endorsement
  | payout
  | split
  | bodyOf (kind : Kind)
  deriving DecidableEq

namespace Layout

/-- The type of the records. -/
def Value : Layout → Type
  | .amount => Amount
  | .endorsement => Endorsement
  | .payout => Payout
  | .split => Split
  | .bodyOf kind => kind.Body

/-- The codec of the records. -/
def codec : (layout : Layout) → Codec layout.Value
  | .amount => Rlp.amount
  | .endorsement => Rlp.endorsement
  | .payout => Rlp.payout
  | .split => Rlp.split
  | .bodyOf kind => kind.codec

/-- The number of fields. -/
def arity : Layout → Nat
  | .amount => 2
  | .endorsement => 4
  | .payout => 2
  | .split => 2
  | .bodyOf .issuance => 3
  | .bodyOf .slash => 4
  | .bodyOf .transfer => 3
  | .bodyOf .reserveFund => 5
  | .bodyOf .releaseFund => 3
  | .bodyOf .servicePayment => 6
  | .bodyOf .splitRule => 5
  | .bodyOf .smartContract => 5
  | .bodyOf .stakeDeposit => 3

open Rlp.Codec in
/-- What each field of a record is written as by itself, in the order of the fields. -/
def forms : (layout : Layout) → layout.Value → List (Except EncodeError Bytes)
  | .amount, (value : Amount) => [integer.write value.primary, integer.write value.secondary]
  | .endorsement, (value : Endorsement) =>
    [Rlp.address.write value.address, Rlp.amount.write value.amount, word64.write value.sequence,
      Rlp.signature.write value.signature]
  | .payout, (value : Payout) =>
    [Rlp.address.write value.address, Rlp.amount.write value.amount]
  | .split, (value : Split) =>
    [Rlp.address.write value.address, word32.write value.percentage]
  | .bodyOf .issuance, (body : Issuance) =>
    [Rlp.endorsement.write body.proposer, Rlp.payout.list.write body.payouts,
      word64.write body.blockHeight]
  | .bodyOf .slash, (body : Slash) =>
    [Rlp.endorsement.write body.proposer, Rlp.address.write body.slashedAddress,
      word64.write body.reserveSequence, bytes.write body.proof]
  | .bodyOf .transfer, (body : Transfer) =>
    [Rlp.amount.write body.fee, Rlp.endorsement.list.write body.endorsements,
      Rlp.payout.list.write body.payouts]
  | .bodyOf .reserveFund, (body : ReserveFund) =>
    [Rlp.amount.write body.fee, Rlp.endorsement.write body.source,
      Rlp.amount.write body.collateral, text.list.write body.resourceIds,
      word64.write body.duration]
  | .bodyOf .releaseFund, (body : ReleaseFund) =>
    [Rlp.amount.write body.fee, Rlp.endorsement.write body.source,
      word64.write body.reserveSequence]
  | .bodyOf .servicePayment, (body : ServicePayment) =>
    [Rlp.amount.write body.fee, Rlp.endorsement.write body.source,
      Rlp.endorsement.write body.target, word64.write body.paymentSequence,
      word64.write body.reserveSequence, text.write body.resourceId]
  | .bodyOf .splitRule, (body : SplitRule) =>
    [Rlp.amount.write body.fee, text.write body.resourceId, Rlp.endorsement.write body.initiator,
      Rlp.split.list.write body.splits, word64.write body.duration]
  | .bodyOf .smartContract, (body : SmartContract) =>
    [Rlp.endorsement.write body.caller, Rlp.payout.write body.callee, word64.write body.gasLimit,
      integer.write body.gasPrice, bytes.write body.data]
  | .bodyOf .stakeDeposit, (body : StakeDeposit) =>
    [Rlp.amount.write body.fee, Rlp.endorsement.list.write body.endorsements,
      Rlp.payout.list.write body.payouts]

/-- A record has as many written fields as its layout says. -/
theorem length_forms (layout : Layout) (value : layout.Value) :
    (layout.forms value).length = layout.arity := by
  -- The fields are listed layout by layout.
  cases layout with
  | bodyOf kind => cases kind <;> rfl
  | _ => rfl

open Rlp Rlp.Codec Fields in
/-- Every record is counted by the fields of its layout. -/
theorem codec_counted (layout : Layout) : layout.codec.Counted layout.forms := by
  -- Each chain follows the fields of one codec.
  cases layout with
  | amount =>
    change Rlp.amount.Counted _
    exact (integer_lawful.counted (integer_lawful.counted nil_counted)).record
  | endorsement =>
    change Rlp.endorsement.Counted _
    exact (address_lawful.counted (amount_lawful.counted (word64_lawful.counted
      (signature_lawful.counted nil_counted)))).record
  | payout =>
    change Rlp.payout.Counted _
    exact (address_lawful.counted (amount_lawful.counted nil_counted)).record
  | split =>
    change Rlp.split.Counted _
    exact (address_lawful.counted (word32_lawful.counted nil_counted)).record
  | bodyOf kind =>
    cases kind with
    | issuance =>
      change Rlp.issuance.Counted _
      exact (endorsement_lawful.counted (payout_lawful.list.counted (word64_lawful.counted
        nil_counted))).record
    | slash =>
      change Rlp.slash.Counted _
      exact (endorsement_lawful.counted (address_lawful.counted (word64_lawful.counted
        (bytes_lawful.counted nil_counted)))).record
    | transfer =>
      change Rlp.transfer.Counted _
      exact (amount_lawful.counted (endorsement_lawful.list.counted
        (payout_lawful.list.counted nil_counted))).record
    | reserveFund =>
      change Rlp.reserveFund.Counted _
      exact (amount_lawful.counted (endorsement_lawful.counted (amount_lawful.counted
        (text_lawful.list.counted (word64_lawful.counted nil_counted))))).record
    | releaseFund =>
      change Rlp.releaseFund.Counted _
      exact (amount_lawful.counted (endorsement_lawful.counted (word64_lawful.counted
        nil_counted))).record
    | servicePayment =>
      change Rlp.servicePayment.Counted _
      exact (amount_lawful.counted (endorsement_lawful.counted (endorsement_lawful.counted
        (word64_lawful.counted (word64_lawful.counted (text_lawful.counted
          nil_counted)))))).record
    | splitRule =>
      change Rlp.splitRule.Counted _
      exact (amount_lawful.counted (text_lawful.counted (endorsement_lawful.counted
        (split_lawful.list.counted (word64_lawful.counted nil_counted))))).record
    | smartContract =>
      change Rlp.smartContract.Counted _
      exact (endorsement_lawful.counted (payout_lawful.counted (word64_lawful.counted
        (integer_lawful.counted (bytes_lawful.counted nil_counted))))).record
    | stakeDeposit =>
      change Rlp.stakeDeposit.Counted _
      exact (amount_lawful.counted (endorsement_lawful.list.counted
        (payout_lawful.list.counted nil_counted))).record

open Transaction (decode tagItem) in
/-- The list of a payload is refused wherever it stands: reading it as a record passes it with the
error, and as the body of a kind it has the same error behind the tag, whatever follows. -/
def Refuses (layout : Layout) (payload : Bytes) (error : DecodeError) : Prop :=
  ∀ rest : Bytes,
    (∀ inList, (Cursor.mk ((Item.list payload).write ++ rest) inList).read layout.codec =
      (.error error, ⟨rest, inList⟩)) ∧
    ∀ kind, layout = .bodyOf kind →
      decode (tagItem kind ++ ((Item.list payload).write ++ rest)) = .error error

/-- A list that no record is read from is refused wherever it stands, also as the body of a
transaction. -/
theorem refuses_of_ofItem {layout : Layout} {payload : Bytes} {error : DecodeError}
    (bounded : (Item.list payload).write.length < 2 ^ 64)
    (refused : layout.codec.ofItem (.list payload) = .error error) :
    layout.Refuses payload error := by
  intro rest
  refine ⟨?_, ?_⟩
  · intro inList
    rw [Cursor.read_write_append layout.codec bounded, refused]
  · intro kind same
    subst same
    have own : kind.codec.ofItem (.list payload) = .error error := refused
    have found : (Cursor.mk ((Item.list payload).write ++ rest) false).next =
        .ok (.list payload, ⟨rest, false⟩) :=
      Cursor.next_eq_ok_iff.mpr ⟨rfl, bounded, rfl⟩
    -- Behind the tag the body comes first, so its error hides what follows.
    rw [Transaction.decode_tagItem, Transaction.readBody, found]
    simp only [Transaction.ofBody_eq, own, Except.map, bind, Except.bind]

/-- A record that can be written is the list of its fields, as many as its layout has. A list of the
first few of them lacks elements, and a list of all of them with anything behind has too many,
wherever such a list stands. -/
theorem refuses_miscounted (layout : Layout) (value : layout.Value) (wire : Bytes)
    (written : layout.codec.write value = .ok wire) :
    ∃ parts : List Bytes, layout.forms value = parts.map .ok ∧ parts.length = layout.arity ∧
      wire = (Item.list parts.flatten).write ∧
      (∀ count < layout.arity, (Item.list (parts.take count).flatten).write.length < 2 ^ 63 →
        layout.Refuses (parts.take count).flatten .tooFewElements) ∧
      ∀ more ≠ [], (Item.list (parts.flatten ++ more)).write.length < 2 ^ 63 →
        layout.Refuses (parts.flatten ++ more) .tooManyElements := by
  -- The fields of every layout are counted once, and both parts follow from that.
  have counted := layout.codec_counted
  obtain ⟨parts, listed, wireLayout⟩ := counted.write_eq_ok_iff.mp written
  have arity : parts.length = layout.arity := by
    rw [← layout.length_forms value, listed, List.length_map]
  refine ⟨parts, listed, arity, wireLayout, ?_, ?_⟩
  -- The bound leaves room for the header of the shorter list.
  · intro count few bounded
    have inside := Item.length_payload_le (parts.take count).flatten
    exact refuses_of_ofItem (by omega) (counted.ofItem_take listed (by omega) (by omega))
  · intro more goesOn bounded
    have inside := Item.length_payload_le (parts.flatten ++ more)
    rw [List.length_append] at inside
    exact refuses_of_ofItem (by omega) (counted.ofItem_append listed (by omega) goesOn)

/-- A rule for dividing revenue whose list has a long header. -/
def longRule : SplitRule where
  fee := ⟨1, 0⟩
  resourceId := "é"
  initiator := ⟨.zero, ⟨2, 0⟩, 3, .empty⟩
  splits := [⟨.zero, 128⟩]
  duration := 0

/-- The fields of the rule. -/
def longRuleParts : List Bytes :=
  [[0xC2, 0x01, 0x80], [0x82, 0xC3, 0xA9],
    [0xDA, 0x94] ++ Bytes.zeros 20 ++ [0xC2, 0x02, 0x80, 0x03, 0x80],
    [0xD8, 0xD7, 0x94] ++ Bytes.zeros 20 ++ [0x81, 0x80], [0x80]]

/-- Without its last field the rule lacks elements, although its header is as long as before, and
without two fields as well; with half an item behind its last field it has too many. -/
theorem refuses_miscounted_longRule :
    (bodyOf .splitRule).codec.write longRule = .ok (0xF8 :: 0x3B :: longRuleParts.flatten) ∧
      Transaction.decode (0x06 :: 0xF8 :: 0x3A :: (longRuleParts.take 4).flatten) =
        .error .tooFewElements ∧
      Transaction.decode (0x06 :: 0xE1 :: (longRuleParts.take 3).flatten) =
        .error .tooFewElements ∧
      Transaction.decode (0x06 :: 0xF8 :: 0x3C :: (longRuleParts.flatten ++ [0xB8])) =
        .error .tooManyElements := by
  have written : (bodyOf .splitRule).codec.write longRule =
      .ok (0xF8 :: 0x3B :: longRuleParts.flatten) := by decide +kernel
  obtain ⟨parts, listed, -, -, short, long⟩ :=
    -- The fields are written one by one, so the parts are known.
    refuses_miscounted (.bodyOf .splitRule) longRule _ written
  have own : (bodyOf .splitRule).forms longRule = longRuleParts.map .ok := by decide +kernel
  obtain rfl : parts = longRuleParts :=
    (List.map_inj_right fun _ _ => Except.ok.inj).mp (listed.symm.trans own)
  -- Each list stands behind its tag here, and nothing stands behind it.
  have four := ((short 4 (by decide) (by decide +kernel)) []).2 .splitRule rfl
  have three := ((short 3 (by decide) (by decide +kernel)) []).2 .splitRule rfl
  have more := ((long [0xB8] (by decide) (by decide +kernel)) []).2 .splitRule rfl
  -- Fifty-eight octets still need a header of two, and thirty-three need one.
  have fourWire : Transaction.tagItem .splitRule ++
      ((Item.list (longRuleParts.take 4).flatten).write ++ []) =
        0x06 :: 0xF8 :: 0x3A :: (longRuleParts.take 4).flatten := by decide +kernel
  have threeWire : Transaction.tagItem .splitRule ++
      ((Item.list (longRuleParts.take 3).flatten).write ++ []) =
        0x06 :: 0xE1 :: (longRuleParts.take 3).flatten := by decide +kernel
  have moreWire : Transaction.tagItem .splitRule ++
      ((Item.list (longRuleParts.flatten ++ [0xB8])).write ++ []) =
        0x06 :: 0xF8 :: 0x3C :: (longRuleParts.flatten ++ [0xB8]) := by decide +kernel
  rw [fourWire] at four
  rw [threeWire] at three
  rw [moreWire] at more
  exact ⟨written, four, three, more⟩

end Layout

end Countersign
