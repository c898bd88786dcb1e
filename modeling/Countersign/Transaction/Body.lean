import Countersign.Transaction.Parts

/-! The nine kinds of transaction, their bodies, and the slots for signatures in them. -/

namespace Countersign

/-- A block proposer mints rewards. -/
structure Issuance where
  /-- The proposer of the block. -/
  proposer : Endorsement
  /-- The rewards. -/
  payouts : List Payout
  /-- The height of the block. -/
  blockHeight : UInt64
  deriving DecidableEq

/-- An account that misused a reserved fund is penalised. -/
structure Slash where
  /-- The account that brings the proof. -/
  proposer : Endorsement
  /-- The account that is penalised. -/
  slashedAddress : Address
  /-- The reserve that was misused. -/
  reserveSequence : UInt64
  /-- The evidence. -/
  proof : Bytes
  deriving DecidableEq

/-- Value moves from endorsing accounts to others. -/
structure Transfer where
  /-- What is paid for inclusion. -/
  fee : Amount
  /-- The accounts that contribute. -/
  endorsements : List Endorsement
  /-- The accounts that are credited. -/
  payouts : List Payout
  deriving DecidableEq

/-- Value is set aside to pay for resources later. -/
structure ReserveFund where
  /-- What is paid for inclusion. -/
  fee : Amount
  /-- The account whose value is set aside. -/
  source : Endorsement
  /-- What backs the reserve. -/
  collateral : Amount
  /-- The resources it may pay for. -/
  resourceIds : List String
  /-- How long it lasts. -/
  duration : UInt64
  deriving DecidableEq

/-- An expired reserve goes back to its source. -/
structure ReleaseFund where
  /-- What is paid for inclusion. -/
  fee : Amount
  /-- The account that takes its reserve back. -/
  source : Endorsement
  /-- The reserve that is released. -/
  reserveSequence : UInt64
  deriving DecidableEq

/-- A payment made off the ledger is settled against a reserve. -/
structure ServicePayment where
  /-- What is paid for inclusion. -/
  fee : Amount
  /-- The account that pays. -/
  source : Endorsement
  /-- The account that is paid. -/
  target : Endorsement
  /-- The number of the payment. -/
  paymentSequence : UInt64
  /-- The reserve that pays. -/
  reserveSequence : UInt64
  /-- The resource that was used. -/
  resourceId : String
  deriving DecidableEq

/-- The revenue of a resource is divided. -/
structure SplitRule where
  /-- What is paid for inclusion. -/
  fee : Amount
  /-- The resource whose revenue is divided. -/
  resourceId : String
  /-- The account that makes the rule. -/
  initiator : Endorsement
  /-- The shares. -/
  splits : List Split
  /-- How long the rule holds. -/
  duration : UInt64
  deriving DecidableEq

/-- A contract is called or deployed. -/
structure SmartContract where
  /-- The account that calls. -/
  caller : Endorsement
  /-- The contract that is called; the zero address deploys a new one. -/
  callee : Payout
  /-- The most gas that may be used. -/
  gasLimit : UInt64
  /-- What is paid for a unit of gas. -/
  gasPrice : Int
  /-- The input of the call, or the code. -/
  data : Bytes
  deriving DecidableEq

/-- Value is locked as stake. -/
structure StakeDeposit where
  /-- What is paid for inclusion. -/
  fee : Amount
  /-- The accounts that contribute. -/
  endorsements : List Endorsement
  /-- The accounts whose stake grows. -/
  payouts : List Payout
  deriving DecidableEq

/-- A transaction of one of the nine kinds. -/
inductive Transaction where
  /-- Rewards for a block. -/
  | issuance (body : Issuance)
  /-- A penalty. -/
  | slash (body : Slash)
  /-- A movement of value. -/
  | transfer (body : Transfer)
  /-- A reserve set aside. -/
  | reserveFund (body : ReserveFund)
  /-- A reserve taken back. -/
  | releaseFund (body : ReleaseFund)
  /-- A payment settled against a reserve. -/
  | servicePayment (body : ServicePayment)
  /-- A division of revenue. -/
  | splitRule (body : SplitRule)
  /-- A call of a contract. -/
  | smartContract (body : SmartContract)
  /-- A stake. -/
  | stakeDeposit (body : StakeDeposit)
  deriving DecidableEq

/-- The kinds of transaction, in the order of their tags. -/
inductive Kind where
  /-- Rewards for a block. -/
  | issuance
  /-- A penalty. -/
  | slash
  /-- A movement of value. -/
  | transfer
  /-- A reserve set aside. -/
  | reserveFund
  /-- A reserve taken back. -/
  | releaseFund
  /-- A payment settled against a reserve. -/
  | servicePayment
  /-- A division of revenue. -/
  | splitRule
  /-- A call of a contract. -/
  | smartContract
  /-- A stake. -/
  | stakeDeposit
  deriving DecidableEq, Repr

namespace Kind

/-- All kinds, in the order of their tags. -/
def all : List Kind :=
  -- The place in this list is the tag.
  [.issuance, .slash, .transfer, .reserveFund, .releaseFund, .servicePayment, .splitRule,
    .smartContract, .stakeDeposit]

/-- The number that stands for a kind on the wire. -/
def tag : Kind → Nat
  | .issuance => 0
  | .slash => 1
  | .transfer => 2
  | .reserveFund => 3
  | .releaseFund => 4
  | .servicePayment => 5
  | .splitRule => 6
  | .smartContract => 7
  | .stakeDeposit => 8

/-- The kind that a number stands for, if it stands for one. -/
def ofTag? (tag : Nat) : Option Kind := all.find? fun kind => kind.tag == tag

/-- The name of a kind in texts that programs read. -/
def name : Kind → String
  | .issuance => "issuance"
  | .slash => "slash"
  | .transfer => "transfer"
  | .reserveFund => "reserve_fund"
  | .releaseFund => "release_fund"
  | .servicePayment => "service_payment"
  | .splitRule => "split_rule"
  | .smartContract => "smart_contract"
  | .stakeDeposit => "stake_deposit"

/-- The name of a kind in messages. -/
def title : Kind → String
  | .issuance => "Issuance"
  | .slash => "Slash"
  | .transfer => "Transfer"
  | .reserveFund => "ReserveFund"
  | .releaseFund => "ReleaseFund"
  | .servicePayment => "ServicePayment"
  | .splitRule => "SplitRule"
  | .smartContract => "SmartContract"
  | .stakeDeposit => "StakeDeposit"

end Kind

namespace Transaction

/-- The kind of a transaction. -/
def kind : Transaction → Kind
  | .issuance _ => .issuance
  | .slash _ => .slash
  | .transfer _ => .transfer
  | .reserveFund _ => .reserveFund
  | .releaseFund _ => .releaseFund
  | .servicePayment _ => .servicePayment
  | .splitRule _ => .splitRule
  | .smartContract _ => .smartContract
  | .stakeDeposit _ => .stakeDeposit

/-- The slots for signatures, in the order in which they are written. -/
def endorsements : Transaction → List Endorsement
  | .issuance body => [body.proposer]
  | .slash body => [body.proposer]
  | .transfer body => body.endorsements
  | .reserveFund body => [body.source]
  | .releaseFund body => [body.source]
  | .servicePayment body => [body.source, body.target]
  | .splitRule body => [body.initiator]
  | .smartContract body => [body.caller]
  | .stakeDeposit body => body.endorsements

/-- The transaction with every slot changed in the same way. -/
def mapEndorsements (change : Endorsement → Endorsement) : Transaction → Transaction
  | .issuance body => .issuance { body with proposer := change body.proposer }
  | .slash body => .slash { body with proposer := change body.proposer }
  | .transfer body => .transfer { body with endorsements := body.endorsements.map change }
  | .reserveFund body => .reserveFund { body with source := change body.source }
  | .releaseFund body => .releaseFund { body with source := change body.source }
  | .servicePayment body =>
    .servicePayment { body with source := change body.source, target := change body.target }
  | .splitRule body => .splitRule { body with initiator := change body.initiator }
  | .smartContract body => .smartContract { body with caller := change body.caller }
  | .stakeDeposit body => .stakeDeposit { body with endorsements := body.endorsements.map change }

/-- The addresses that are to sign, in the order of their slots. -/
def signers (tx : Transaction) : List Address := tx.endorsements.map Endorsement.address

/-- The transaction with every slot emptied. -/
def unsigned (tx : Transaction) : Transaction := tx.mapEndorsements Endorsement.clear

/-- Whether some slot belongs to an address. -/
def hasSigner (tx : Transaction) (address : Address) : Bool :=
  -- Ownership is equality of addresses.
  tx.endorsements.any fun slot => slot.address == address

/-- The transaction with a signature in every slot that belongs to an address. -/
def setSignature (tx : Transaction) (address : Address) (signature : Signature) : Transaction :=
  -- Slots of other addresses stay as they are.
  tx.mapEndorsements fun slot => if slot.address == address then slot.sign signature else slot

/-- Whether every slot holds a signature, valid or not. -/
def isFullySigned (tx : Transaction) : Bool := tx.endorsements.all Endorsement.isSigned

/-- Changing the slots changes their list slot by slot. -/
theorem endorsements_mapEndorsements (tx : Transaction) (change : Endorsement → Endorsement) :
    (tx.mapEndorsements change).endorsements = tx.endorsements.map change := by
  -- Each kind has its slots in fixed places.
  cases tx <;> rfl

/-- Changing the slots leaves the kind alone. -/
theorem kind_mapEndorsements (tx : Transaction) (change : Endorsement → Endorsement) :
    (tx.mapEndorsements change).kind = tx.kind := by
  -- Each kind is rebuilt as itself.
  cases tx <;> rfl

end Transaction

/-- The recipients of an issuance, in order. -/
def Issuance.recipients (body : Issuance) : List Address := body.payouts.map Payout.address

/-- The sum of all shares, which may be any number. -/
def SplitRule.totalPercentage (body : SplitRule) : Nat :=
  -- Nothing forces the shares to add up to a hundred.
  body.splits.foldl (fun total split => total + split.percentage.toNat) 0

/-- Whether a contract is deployed and not called. -/
def SmartContract.isDeployment (body : SmartContract) : Bool := body.callee.address.isZero

/-- The value that goes to a contract. -/
def SmartContract.value (body : SmartContract) : Amount := body.caller.amount

end Countersign
