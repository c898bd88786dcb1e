import Countersign.Transaction.Wire

/-! The octets that are signed: the envelope of a chain and a transaction without its signatures. -/

namespace Countersign

/-- The list that a chain and the wire form of a transaction are wrapped in for signing. -/
def envelope (chain : String) (wire : Bytes) : Bytes :=
  -- Three zeros, a zero address, a zero, and the data; wallets know this list as a plain transfer.
  let string (content : Bytes) : Bytes := (Rlp.Item.octets content).write
  let data := string (Bytes.ofText chain) ++ wire
  (Rlp.Item.list (string [] ++ string [] ++ string [] ++ string (Bytes.zeros 20) ++ string []
    ++ string data)).write

namespace ServicePayment

/-- What the source of a payment signs: a voucher that leaves the fee and the target's part open. -/
def sourceView (body : ServicePayment) : ServicePayment :=
  -- Of the source its address and amount are kept, of the target its address.
  { body with
    fee := .zero
    source := .unsigned body.source.address body.source.amount 0
    target := .unsigned body.target.address .zero 0 }

/-- What the target of a payment signs: all of it but its own signature. -/
def targetView (body : ServicePayment) : ServicePayment :=
  -- The source's signature is covered.
  { body with target := body.target.clear }

end ServicePayment

namespace Transaction

/-- The octets of a transaction exactly as it stands, wrapped for signing under a chain. -/
def wrapped (tx : Transaction) (chain : String) : Except Rlp.EncodeError Bytes :=
  -- The caller has cleared what is not to be signed.
  tx.encode.map (envelope chain)

/-- The octets that endorsers sign: all slots are empty in them. -/
def signBytes (tx : Transaction) (chain : String) : Except Rlp.EncodeError Bytes :=
  -- Signatures present already make no difference.
  tx.unsigned.wrapped chain

end Transaction

namespace ServicePayment

/-- The octets that the source of a payment signs. -/
def sourceSignBytes (body : ServicePayment) (chain : String) : Except Rlp.EncodeError Bytes :=
  -- The voucher is wrapped as it is.
  (Transaction.servicePayment body.sourceView).wrapped chain

/-- The octets that the target of a payment signs. -/
def targetSignBytes (body : ServicePayment) (chain : String) : Except Rlp.EncodeError Bytes :=
  -- The view is wrapped as it is.
  (Transaction.servicePayment body.targetView).wrapped chain

end ServicePayment

namespace Transaction

/-- The slot that a key answers for, with the octets that its signature must cover. -/
def slotOf (tx : Transaction) (chain : String) (address : Address) :
    Except Rlp.EncodeError (Option (Signature × Bytes)) :=
  -- The parties of a service payment have views of their own; the source goes first.
  let general : Except Rlp.EncodeError (Option (Signature × Bytes)) :=
    match tx.endorsements.find? fun slot => slot.address == address with
    | none => .ok none
    | some slot => (tx.signBytes chain).map fun bytes => some (slot.signature, bytes)
  match tx with
  | .servicePayment body =>
    if body.source.address == address then
      (body.sourceSignBytes chain).map fun bytes => some (body.source.signature, bytes)
    else if body.target.address == address then
      (body.targetSignBytes chain).map fun bytes => some (body.target.signature, bytes)
    else general
  | _ => general

/-- Whether the slot that a key answers for holds its valid signature. -/
def verify (tx : Transaction) (chain : String) (key : FixedBytes 32) :
    Except Rlp.EncodeError Bool := do
  -- A key without a slot and an empty slot are both a plain no.
  match ← tx.slotOf chain (Address.ofPublicKey key) with
  | none => return false
  | some (signature, bytes) => return !signature.isEmpty && Signature.isValid bytes signature key

end Transaction

end Countersign
