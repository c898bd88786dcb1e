import Countersign.Json.Form
import Countersign.Transaction.Wire

/-! The JSON forms of transactions and of their parts. -/

namespace Countersign.Json

/-- An address, as lowercase digits; it is read in any spelling without a checksum. -/
def Form.address : Form Address :=
  -- A fault is worded by the reader of addresses.
  .refine Address.display fun text => (Address.parse text).mapError Address.Fault.message

/-- A signature, as hexadecimal digits, or nothing when it is empty. -/
def Form.signature : Form Signature where
  write signature :=
    -- Nothing stands for an unsigned slot.
    if signature.isEmpty then .null else Form.hexBytes.write signature.toBytes
  read
    | .null => .ok .empty
    | other => (Form.hexBytes.read other).map Signature.mk

/-- An amount. -/
def Form.amount : Form Amount :=
  Fields.record (.cons "primary" .integer (.cons "secondary" .integer .nil))
    (fun (primary, secondary, _) => ⟨primary, secondary⟩)
    (fun amount => (amount.primary, amount.secondary, ()))

/-- An endorsement; without a signature it is unsigned. -/
def Form.endorsement : Form Endorsement :=
  Fields.record
    (.cons "address" .address (.cons "amount" .amount (.cons "sequence" .word64
      (.optional "signature" .signature .empty .nil))))
    (fun (address, amount, sequence, signature, _) => ⟨address, amount, sequence, signature⟩)
    (fun value => (value.address, value.amount, value.sequence, value.signature, ()))

/-- A payout. -/
def Form.payout : Form Payout :=
  Fields.record (.cons "address" .address (.cons "amount" .amount .nil))
    (fun (address, amount, _) => ⟨address, amount⟩)
    (fun value => (value.address, value.amount, ()))

/-- A split. -/
def Form.split : Form Split :=
  Fields.record (.cons "address" .address (.cons "percentage" .word32 .nil))
    (fun (address, percentage, _) => ⟨address, percentage⟩)
    (fun value => (value.address, value.percentage, ()))

/-- The body of an issuance. -/
def Form.issuance : Form Issuance :=
  Fields.record
    (.cons "proposer" .endorsement (.cons "payouts" (.list .payout)
      (.cons "block_height" .word64 .nil)))
    (fun (proposer, payouts, blockHeight, _) => ⟨proposer, payouts, blockHeight⟩)
    (fun body => (body.proposer, body.payouts, body.blockHeight, ()))

/-- The body of a penalty. -/
def Form.slash : Form Slash :=
  Fields.record
    (.cons "proposer" .endorsement (.cons "slashed_address" .address
      (.cons "reserve_sequence" .word64 (.cons "proof" .hexBytes .nil))))
    (fun (proposer, slashed, sequence, proof, _) => ⟨proposer, slashed, sequence, proof⟩)
    (fun body => (body.proposer, body.slashedAddress, body.reserveSequence, body.proof, ()))

/-- The body of a transfer. -/
def Form.transfer : Form Transfer :=
  Fields.record
    (.cons "fee" .amount (.cons "endorsements" (.list .endorsement)
      (.cons "payouts" (.list .payout) .nil)))
    (fun (fee, endorsements, payouts, _) => ⟨fee, endorsements, payouts⟩)
    (fun body => (body.fee, body.endorsements, body.payouts, ()))

/-- The body of a reserve. -/
def Form.reserveFund : Form ReserveFund :=
  Fields.record
    (.cons "fee" .amount (.cons "source" .endorsement (.cons "collateral" .amount
      (.cons "resource_ids" (.list .text) (.cons "duration" .word64 .nil)))))
    (fun (fee, source, collateral, resourceIds, duration, _) =>
      ⟨fee, source, collateral, resourceIds, duration⟩)
    (fun body => (body.fee, body.source, body.collateral, body.resourceIds, body.duration, ()))

/-- The body of a release. -/
def Form.releaseFund : Form ReleaseFund :=
  Fields.record
    (.cons "fee" .amount (.cons "source" .endorsement (.cons "reserve_sequence" .word64 .nil)))
    (fun (fee, source, sequence, _) => ⟨fee, source, sequence⟩)
    (fun body => (body.fee, body.source, body.reserveSequence, ()))

/-- The body of a service payment. -/
def Form.servicePayment : Form ServicePayment :=
  Fields.record
    (.cons "fee" .amount (.cons "source" .endorsement (.cons "target" .endorsement
      (.cons "payment_sequence" .word64 (.cons "reserve_sequence" .word64
        (.cons "resource_id" .text .nil))))))
    (fun (fee, source, target, payment, reserve, resource, _) =>
      ⟨fee, source, target, payment, reserve, resource⟩)
    (fun body => (body.fee, body.source, body.target, body.paymentSequence, body.reserveSequence,
      body.resourceId, ()))

/-- The body of a rule for dividing revenue. -/
def Form.splitRule : Form SplitRule :=
  Fields.record
    (.cons "fee" .amount (.cons "resource_id" .text (.cons "initiator" .endorsement
      (.cons "splits" (.list .split) (.cons "duration" .word64 .nil)))))
    (fun (fee, resource, initiator, splits, duration, _) =>
      ⟨fee, resource, initiator, splits, duration⟩)
    (fun body => (body.fee, body.resourceId, body.initiator, body.splits, body.duration, ()))

/-- The body of a contract call. -/
def Form.smartContract : Form SmartContract :=
  Fields.record
    (.cons "from" .endorsement (.cons "to" .payout (.cons "gas_limit" .word64
      (.cons "gas_price" .integer (.cons "data" .hexBytes .nil)))))
    (fun (caller, callee, limit, price, data, _) => ⟨caller, callee, limit, price, data⟩)
    (fun body => (body.caller, body.callee, body.gasLimit, body.gasPrice, body.data, ()))

/-- The body of a stake. -/
def Form.stakeDeposit : Form StakeDeposit :=
  Fields.record
    (.cons "fee" .amount (.cons "endorsements" (.list .endorsement)
      (.cons "payouts" (.list .payout) .nil)))
    (fun (fee, endorsements, payouts, _) => ⟨fee, endorsements, payouts⟩)
    (fun body => (body.fee, body.endorsements, body.payouts, ()))

/-- A kind of transaction, by its name. -/
def Form.kind : Form Kind := .choice (Kind.all.map fun kind => (kind.name, kind)) Kind.name

/-- The body of a transaction, without its kind. -/
def writeBody : Transaction → Value
  | .issuance body => Form.issuance.write body
  | .slash body => Form.slash.write body
  | .transfer body => Form.transfer.write body
  | .reserveFund body => Form.reserveFund.write body
  | .releaseFund body => Form.releaseFund.write body
  | .servicePayment body => Form.servicePayment.write body
  | .splitRule body => Form.splitRule.write body
  | .smartContract body => Form.smartContract.write body
  | .stakeDeposit body => Form.stakeDeposit.write body

/-- The transaction of a kind with a given body. -/
def readBody (kind : Kind) (value : Value) : Except Fault Transaction :=
  -- The kind chooses the form of the body.
  match kind with
  | .issuance => (Form.issuance.read value).map .issuance
  | .slash => (Form.slash.read value).map .slash
  | .transfer => (Form.transfer.read value).map .transfer
  | .reserveFund => (Form.reserveFund.read value).map .reserveFund
  | .releaseFund => (Form.releaseFund.read value).map .releaseFund
  | .servicePayment => (Form.servicePayment.read value).map .servicePayment
  | .splitRule => (Form.splitRule.read value).map .splitRule
  | .smartContract => (Form.smartContract.read value).map .smartContract
  | .stakeDeposit => (Form.stakeDeposit.read value).map .stakeDeposit

/-- A transaction: its body under the name of its kind. -/
def Form.transaction : Form Transaction :=
  .tagged (fun tx => tx.kind.name) writeBody (Kind.all.map fun kind => (kind.name, readBody kind))

end Countersign.Json
