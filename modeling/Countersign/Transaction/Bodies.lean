import Countersign.Transaction.Wire

/-! The bodies of a kind by themselves: their type, their codec, and their wire form. -/

namespace Countersign

namespace Kind

/-- The type of a kind's bodies. -/
def Body : Kind → Type
  | .issuance => Issuance
  | .slash => Slash
  | .transfer => Transfer
  | .reserveFund => ReserveFund
  | .releaseFund => ReleaseFund
  | .servicePayment => ServicePayment
  | .splitRule => SplitRule
  | .smartContract => SmartContract
  | .stakeDeposit => StakeDeposit

/-- The transaction with a given body. -/
def pack : (kind : Kind) → kind.Body → Transaction
  | .issuance => .issuance
  | .slash => .slash
  | .transfer => .transfer
  | .reserveFund => .reserveFund
  | .releaseFund => .releaseFund
  | .servicePayment => .servicePayment
  | .splitRule => .splitRule
  | .smartContract => .smartContract
  | .stakeDeposit => .stakeDeposit

/-- The codec of a kind's bodies. -/
def codec : (kind : Kind) → Rlp.Codec kind.Body
  | .issuance => Rlp.issuance
  | .slash => Rlp.slash
  | .transfer => Rlp.transfer
  | .reserveFund => Rlp.reserveFund
  | .releaseFund => Rlp.releaseFund
  | .servicePayment => Rlp.servicePayment
  | .splitRule => Rlp.splitRule
  | .smartContract => Rlp.smartContract
  | .stakeDeposit => Rlp.stakeDeposit

/-- The wire form of a body: the number of its kind, then the list of its fields. -/
def toBytes (kind : Kind) (body : kind.Body) : Except Rlp.EncodeError Bytes := do
  let number ← Rlp.Codec.word64.write (UInt64.ofNat kind.tag)
  let fields ← kind.codec.write body
  return number ++ fields

end Kind

namespace Transaction

/-- A body of a kind is read by the codec of that kind. -/
theorem ofBody_eq (kind : Kind) (item : Rlp.Item) :
    ofBody kind item = (kind.codec.ofItem item).map kind.pack := by
  -- The codec and the constructor are chosen by the same kind.
  cases kind <;> rfl

end Transaction

end Countersign
