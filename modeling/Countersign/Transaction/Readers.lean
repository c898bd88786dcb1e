import Countersign.Rlp.Reader
import Countersign.Transaction.Bodies

/-! The records of transactions and the bodies of each kind, read at a cursor field after field. -/

namespace Countersign

namespace Rlp.Reader

/-- An address: a string of twenty octets. -/
def address : Reader Address := do
  let content ← bytes
  if content.length ≠ 20 then throw (.invalidAddressLength content.length)
  -- The length is looked at once more where the octets become an address.
  match FixedBytes.ofBytes? content with
  | some value => return value
  | none => throw (.invalidAddressLength content.length)

/-- A balance. -/
def amount : Reader Amount := record do
  return { primary := ← integer, secondary := ← integer }

/-- A signature: a string of its octets. -/
def signature : Reader Signature := do return ⟨← bytes⟩

/-- An endorsement. -/
def endorsement : Reader Endorsement := record do
  return {
    address := ← address
    amount := ← amount
    sequence := ← word64
    signature := ← signature }

/-- A payout. -/
def payout : Reader Payout := record do
  return { address := ← address, amount := ← amount }

/-- A split. -/
def split : Reader Split := record do
  return { address := ← address, percentage := ← word32 }

/-- The body of an issuance. -/
def issuance : Reader Issuance := record do
  return { proposer := ← endorsement, payouts := ← list payout, blockHeight := ← word64 }

/-- The body of a penalty. -/
def slash : Reader Slash := record do
  return {
    proposer := ← endorsement
    slashedAddress := ← address
    reserveSequence := ← word64
    proof := ← bytes }

/-- A fee with slots and credits, the fields that two kinds share. -/
def movement : Reader (Amount × List Endorsement × List Payout) := record do
  return (← amount, ← list endorsement, ← list payout)

/-- The body of a transfer. -/
def transfer : Reader Transfer := do
  let (fee, endorsements, payouts) ← movement
  return { fee, endorsements, payouts }

/-- The body of a reserve. -/
def reserveFund : Reader ReserveFund := record do
  return {
    fee := ← amount
    source := ← endorsement
    collateral := ← amount
    resourceIds := ← list text
    duration := ← word64 }

/-- The body of a release. -/
def releaseFund : Reader ReleaseFund := record do
  return { fee := ← amount, source := ← endorsement, reserveSequence := ← word64 }

/-- The body of a service payment. -/
def servicePayment : Reader ServicePayment := record do
  return {
    fee := ← amount
    source := ← endorsement
    target := ← endorsement
    paymentSequence := ← word64
    reserveSequence := ← word64
    resourceId := ← text }

/-- The body of a rule for dividing revenue. -/
def splitRule : Reader SplitRule := record do
  return {
    fee := ← amount
    resourceId := ← text
    initiator := ← endorsement
    splits := ← list split
    duration := ← word64 }

/-- The body of a contract call. -/
def smartContract : Reader SmartContract := record do
  return {
    caller := ← endorsement
    callee := ← payout
    gasLimit := ← word64
    gasPrice := ← integer
    data := ← bytes }

/-- The body of a stake. -/
def stakeDeposit : Reader StakeDeposit := do
  let (fee, endorsements, payouts) ← movement
  return { fee, endorsements, payouts }

end Rlp.Reader

/-- The reader of a kind's bodies. -/
def Kind.reader : (kind : Kind) → Rlp.Reader kind.Body
  | .issuance => Rlp.Reader.issuance
  | .slash => Rlp.Reader.slash
  | .transfer => Rlp.Reader.transfer
  | .reserveFund => Rlp.Reader.reserveFund
  | .releaseFund => Rlp.Reader.releaseFund
  | .servicePayment => Rlp.Reader.servicePayment
  | .splitRule => Rlp.Reader.splitRule
  | .smartContract => Rlp.Reader.smartContract
  | .stakeDeposit => Rlp.Reader.stakeDeposit

end Countersign
