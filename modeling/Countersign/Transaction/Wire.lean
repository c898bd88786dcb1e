import Countersign.Hash.Keccak
import Countersign.Rlp.Cursor
import Countersign.Transaction.Body

/-! The wire form of a transaction: the item of its tag, then the list of its body's fields. -/

namespace Countersign

namespace Rlp

/-- The body of an issuance. -/
def issuance : Codec Issuance :=
  Fields.record (.cons endorsement (.cons (.list payout) (.cons .word64 .nil)))
    (fun (proposer, payouts, blockHeight, _) => ⟨proposer, payouts, blockHeight⟩)
    (fun body => (body.proposer, body.payouts, body.blockHeight, ()))

/-- The body of a penalty. -/
def slash : Codec Slash :=
  Fields.record (.cons endorsement (.cons address (.cons .word64 (.cons .bytes .nil))))
    (fun (proposer, slashed, sequence, proof, _) => ⟨proposer, slashed, sequence, proof⟩)
    (fun body => (body.proposer, body.slashedAddress, body.reserveSequence, body.proof, ()))

/-- A fee with slots and credits, the fields that two kinds share. -/
def movement : Fields (Amount × List Endorsement × List Payout × Unit) :=
  .cons amount (.cons (.list endorsement) (.cons (.list payout) .nil))

/-- The body of a transfer. -/
def transfer : Codec Transfer :=
  movement.record (fun (fee, endorsements, payouts, _) => ⟨fee, endorsements, payouts⟩)
    (fun body => (body.fee, body.endorsements, body.payouts, ()))

/-- The body of a reserve. -/
def reserveFund : Codec ReserveFund :=
  Fields.record
    (.cons amount (.cons endorsement (.cons amount (.cons (.list .text) (.cons .word64 .nil)))))
    (fun (fee, source, collateral, resourceIds, duration, _) =>
      ⟨fee, source, collateral, resourceIds, duration⟩)
    (fun body => (body.fee, body.source, body.collateral, body.resourceIds, body.duration, ()))

/-- The body of a release. -/
def releaseFund : Codec ReleaseFund :=
  Fields.record (.cons amount (.cons endorsement (.cons .word64 .nil)))
    (fun (fee, source, sequence, _) => ⟨fee, source, sequence⟩)
    (fun body => (body.fee, body.source, body.reserveSequence, ()))

/-- The body of a service payment. -/
def servicePayment : Codec ServicePayment :=
  Fields.record
    (.cons amount (.cons endorsement (.cons endorsement (.cons .word64 (.cons .word64
      (.cons .text .nil))))))
    (fun (fee, source, target, payment, reserve, resource, _) =>
      ⟨fee, source, target, payment, reserve, resource⟩)
    (fun body => (body.fee, body.source, body.target, body.paymentSequence, body.reserveSequence,
      body.resourceId, ()))

/-- The body of a rule for dividing revenue. -/
def splitRule : Codec SplitRule :=
  Fields.record
    (.cons amount (.cons .text (.cons endorsement (.cons (.list split) (.cons .word64 .nil)))))
    (fun (fee, resource, initiator, splits, duration, _) =>
      ⟨fee, resource, initiator, splits, duration⟩)
    (fun body => (body.fee, body.resourceId, body.initiator, body.splits, body.duration, ()))

/-- The body of a contract call. -/
def smartContract : Codec SmartContract :=
  Fields.record
    (.cons endorsement (.cons payout (.cons .word64 (.cons .integer (.cons .bytes .nil)))))
    (fun (caller, callee, limit, price, data, _) => ⟨caller, callee, limit, price, data⟩)
    (fun body => (body.caller, body.callee, body.gasLimit, body.gasPrice, body.data, ()))

/-- The body of a stake. -/
def stakeDeposit : Codec StakeDeposit :=
  movement.record (fun (fee, endorsements, payouts, _) => ⟨fee, endorsements, payouts⟩)
    (fun body => (body.fee, body.endorsements, body.payouts, ()))

end Rlp

namespace Transaction

/-- The list of a transaction's fields, without the tag. -/
def writeBody : Transaction → Except Rlp.EncodeError Bytes
  | .issuance body => Rlp.issuance.write body
  | .slash body => Rlp.slash.write body
  | .transfer body => Rlp.transfer.write body
  | .reserveFund body => Rlp.reserveFund.write body
  | .releaseFund body => Rlp.releaseFund.write body
  | .servicePayment body => Rlp.servicePayment.write body
  | .splitRule body => Rlp.splitRule.write body
  | .smartContract body => Rlp.smartContract.write body
  | .stakeDeposit body => Rlp.stakeDeposit.write body

/-- The transaction of a kind whose body is an item. -/
def ofBody (kind : Kind) (item : Rlp.Item) : Except Rlp.DecodeError Transaction :=
  -- The kind chooses the codec of the body.
  match kind with
  | .issuance => (Rlp.issuance.ofItem item).map .issuance
  | .slash => (Rlp.slash.ofItem item).map .slash
  | .transfer => (Rlp.transfer.ofItem item).map .transfer
  | .reserveFund => (Rlp.reserveFund.ofItem item).map .reserveFund
  | .releaseFund => (Rlp.releaseFund.ofItem item).map .releaseFund
  | .servicePayment => (Rlp.servicePayment.ofItem item).map .servicePayment
  | .splitRule => (Rlp.splitRule.ofItem item).map .splitRule
  | .smartContract => (Rlp.smartContract.ofItem item).map .smartContract
  | .stakeDeposit => (Rlp.stakeDeposit.ofItem item).map .stakeDeposit

/-- The item of a kind's tag. -/
def tagItem (kind : Kind) : Bytes := (Rlp.Item.octets (Bytes.ofNat kind.tag)).write

/-- The wire form of a transaction. -/
def encode (tx : Transaction) : Except Rlp.EncodeError Bytes :=
  -- The tag stands in front of the body's list.
  tx.writeBody.map (tagItem tx.kind ++ ·)

/-- The transaction whose wire form these octets are. -/
def decode (bytes : Bytes) : Except Rlp.DecodeError Transaction := do
  -- The tag is judged before anything behind it is looked at.
  let (tagRead, behind) := (Rlp.Cursor.ofBytes bytes).read Rlp.Codec.word64
  let tag ← tagRead
  match Kind.ofTag? tag.toNat with
  | none => throw (.unknownKind tag.toNat)
  | some kind =>
    let (item, left) ← behind.next
    let tx ← ofBody kind item
    left.finish
    return tx

/-- The digest of the wire form, signatures included. -/
def hash (tx : Transaction) : Except Rlp.EncodeError Digest := tx.encode.map Hash.keccak256

end Transaction

end Countersign
