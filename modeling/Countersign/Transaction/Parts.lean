import Countersign.Amount
import Countersign.Keys
import Countersign.Rlp.Codec

/-! The records that transactions are made of: slots for signatures, credits, and shares. -/

namespace Countersign

/-- A contribution of value from an account, with the slot for its signature. -/
structure Endorsement where
  /-- The account that contributes and signs. -/
  address : Address
  /-- The value contributed. -/
  amount : Amount
  /-- The replay counter of the account. -/
  sequence : UInt64
  /-- The slot, empty until the account has signed. -/
  signature : Signature
  deriving DecidableEq

/-- A value credited to an account. -/
structure Payout where
  /-- The account that is credited. -/
  address : Address
  /-- The value credited. -/
  amount : Amount
  deriving DecidableEq

/-- One share of a resource's revenue. -/
structure Split where
  /-- The account that receives the share. -/
  address : Address
  /-- The share in hundredths; no bound is set here. -/
  percentage : UInt32
  deriving DecidableEq

namespace Endorsement

/-- An endorsement whose slot is empty. -/
def unsigned (address : Address) (amount : Amount) (sequence : UInt64) : Endorsement :=
  -- The slot is filled later.
  ⟨address, amount, sequence, .empty⟩

/-- The endorsement with another value in its slot. -/
def sign (endorsement : Endorsement) (signature : Signature) : Endorsement :=
  -- Nothing but the slot changes.
  { endorsement with signature := signature }

/-- The endorsement with its slot emptied. -/
def clear (endorsement : Endorsement) : Endorsement := endorsement.sign .empty

/-- Whether the slot holds a signature. -/
def isSigned (endorsement : Endorsement) : Bool := !endorsement.signature.isEmpty

end Endorsement

namespace Rlp

/-- An address is a string of twenty octets. -/
def address : Codec Address where
  toItem value := .ok (.octets value.toBytes)
  ofItem item := do
    -- A string of another length is named by its length.
    let content ← item.content
    match FixedBytes.ofBytes? content with
    | some value => return value
    | none => throw (.invalidAddressLength content.length)

/-- A balance is the list of its two components. -/
def amount : Codec Amount :=
  Fields.record (.cons .integer (.cons .integer .nil))
    (fun (primary, secondary, _) => ⟨primary, secondary⟩)
    (fun amount => (amount.primary, amount.secondary, ()))

/-- A signature is a string of its octets, however many. -/
def signature : Codec Signature := Codec.bytes.iso Signature.mk Signature.toBytes

/-- An endorsement is the list of its fields. -/
def endorsement : Codec Endorsement :=
  Fields.record (.cons address (.cons amount (.cons .word64 (.cons signature .nil))))
    (fun (address, amount, sequence, signature, _) => ⟨address, amount, sequence, signature⟩)
    (fun value => (value.address, value.amount, value.sequence, value.signature, ()))

/-- A payout is the list of its fields. -/
def payout : Codec Payout :=
  Fields.record (.cons address (.cons amount .nil))
    (fun (address, amount, _) => ⟨address, amount⟩)
    (fun value => (value.address, value.amount, ()))

/-- A split is the list of its fields. -/
def split : Codec Split :=
  Fields.record (.cons address (.cons .word32 .nil))
    (fun (address, percentage, _) => ⟨address, percentage⟩)
    (fun value => (value.address, value.percentage, ()))

end Rlp

end Countersign
