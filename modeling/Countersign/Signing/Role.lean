import Countersign.Signing.Signer
import Countersign.Transaction.Json

/-! The roles of signers: the octets that each signs, and the slots that each fills. -/

namespace Countersign

/-- What a signer signs a transaction as. -/
inductive Role where
  /-- The owner of slots over the general octets. -/
  | endorser
  /-- The source of a service payment. -/
  | serviceSource
  /-- The target of a service payment. -/
  | serviceTarget
  deriving DecidableEq, Repr

namespace Role

/-- The name of a role in texts that programs read. -/
def name : Role → String
  | .endorser => "endorser"
  | .serviceSource => "service_source"
  | .serviceTarget => "service_target"

/-- The name of a role in messages. -/
def title : Role → String
  | .endorser => "Endorser"
  | .serviceSource => "ServiceSource"
  | .serviceTarget => "ServiceTarget"

/-- All roles under their names. -/
def names : List (String × Role) :=
  -- The order is the one in which they are listed in messages.
  [("endorser", .endorser), ("service_source", .serviceSource), ("service_target", .serviceTarget)]

end Role

/-- A role, by its name. -/
def Json.Form.role : Json.Form Role := .choice Role.names Role.name

/-- Why a transaction is not signed. -/
inductive SigningError where
  /-- The role does not exist for the kind of transaction. -/
  | roleMismatch (role : Role) (kind : Kind)
  /-- The octets cannot be written. -/
  | encode (cause : Rlp.EncodeError)
  /-- The signer failed. -/
  | signer (cause : SignerError)
  deriving DecidableEq

/-- The wording of an error. -/
def SigningError.message : SigningError → String
  | .roleMismatch role kind =>
    "role " ++ role.title ++ " does not apply to " ++ kind.title ++ " transactions"
  | .encode cause => cause.message
  | .signer cause => cause.message

namespace Transaction

/-- The octets that a role signs. -/
def roleBytes (tx : Transaction) (chain : String) (role : Role) : Except SigningError Bytes :=
  -- Service payments have two roles of their own and no endorsers.
  match role, tx with
  | .serviceSource, .servicePayment body => (body.sourceSignBytes chain).mapError .encode
  | .serviceTarget, .servicePayment body => (body.targetSignBytes chain).mapError .encode
  | .endorser, .servicePayment _ => .error (.roleMismatch .endorser .servicePayment)
  | .endorser, tx => (tx.signBytes chain).mapError .encode
  | role, tx => .error (.roleMismatch role tx.kind)

/-- The transaction with a signature in the slots of a role, and whether any slot took it. -/
def attach (tx : Transaction) (role : Role) (signed : Signed) : Transaction × Bool :=
  -- A slot takes only the signature of its own address.
  match role, tx with
  | .serviceSource, .servicePayment body =>
    if body.source.address == signed.address then
      (.servicePayment { body with source := body.source.sign signed.signature }, true)
    else (tx, false)
  | .serviceTarget, .servicePayment body =>
    if body.target.address == signed.address then
      (.servicePayment { body with target := body.target.sign signed.signature }, true)
    else (tx, false)
  | .endorser, tx => (tx.setSignature signed.address signed.signature, tx.hasSigner signed.address)
  | _, tx => (tx, false)

end Transaction

end Countersign
