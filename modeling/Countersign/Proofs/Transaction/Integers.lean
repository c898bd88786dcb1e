import Countersign.Transaction.Body

/-! The integers of transactions that may be negative, in the order in which they are written. -/

namespace Countersign

/-- The integers of an endorsement. -/
def Endorsement.integers (value : Endorsement) : List Int := value.amount.integers

/-- The integers of a payout. -/
def Payout.integers (value : Payout) : List Int := value.amount.integers

/-- The integers of an issuance. -/
def Issuance.integers (body : Issuance) : List Int :=
  body.proposer.integers ++ body.payouts.flatMap Payout.integers

/-- The integers of a penalty. -/
def Slash.integers (body : Slash) : List Int := body.proposer.integers

/-- The integers of a transfer. -/
def Transfer.integers (body : Transfer) : List Int :=
  body.fee.integers ++ body.endorsements.flatMap Endorsement.integers ++
    body.payouts.flatMap Payout.integers

/-- The integers of a reserve. -/
def ReserveFund.integers (body : ReserveFund) : List Int :=
  body.fee.integers ++ body.source.integers ++ body.collateral.integers

/-- The integers of a release. -/
def ReleaseFund.integers (body : ReleaseFund) : List Int :=
  body.fee.integers ++ body.source.integers

/-- The integers of a service payment. -/
def ServicePayment.integers (body : ServicePayment) : List Int :=
  body.fee.integers ++ body.source.integers ++ body.target.integers

/-- The integers of a rule for dividing revenue. -/
def SplitRule.integers (body : SplitRule) : List Int :=
  body.fee.integers ++ body.initiator.integers

/-- The integers of a contract call. -/
def SmartContract.integers (body : SmartContract) : List Int :=
  body.caller.integers ++ body.callee.integers ++ [body.gasPrice]

/-- The integers of a stake. -/
def StakeDeposit.integers (body : StakeDeposit) : List Int :=
  body.fee.integers ++ body.endorsements.flatMap Endorsement.integers ++
    body.payouts.flatMap Payout.integers

/-- The integers of a transaction: both components of every amount, and the price of gas. -/
def Transaction.integers : Transaction → List Int
  | .issuance body => body.integers
  | .slash body => body.integers
  | .transfer body => body.integers
  | .reserveFund body => body.integers
  | .releaseFund body => body.integers
  | .servicePayment body => body.integers
  | .splitRule body => body.integers
  | .smartContract body => body.integers
  | .stakeDeposit body => body.integers

/-- Emptying the slots leaves the integers alone. -/
@[simp] theorem Transaction.integers_unsigned (tx : Transaction) :
    tx.unsigned.integers = tx.integers := by
  have emptied (slots : List Endorsement) :
      (slots.map Endorsement.clear).flatMap Endorsement.integers =
        slots.flatMap Endorsement.integers := by
    rw [List.flatMap_map]
    rfl
  -- Only the kinds with a list of slots have more to show than their fields.
  cases tx with
  | transfer body =>
    simp only [unsigned, mapEndorsements, integers, Transfer.integers, emptied]
  | stakeDeposit body =>
    simp only [unsigned, mapEndorsements, integers, StakeDeposit.integers, emptied]
  | _ => rfl

end Countersign
