import Countersign.Proofs.Keys
import Countersign.Proofs.Transaction.Negatives
import Countersign.Proofs.Transaction.Slots
import Countersign.Proofs.Transaction.Wire
import Countersign.Signing.Session

/-! Signing and verification: a signature that reached a slot is looked for in the same slot and
under the same octets, unless another slot of the same account stands in front. -/

namespace Countersign

/-- An empty slot holds no valid signature. -/
@[simp] theorem Signature.isValid_empty (message : Bytes) (key : FixedBytes 32) :
    isValid message .empty key = false := by
  -- Sixty-four octets are asked for before anything else.
  simp [isValid, Curve.verify, empty]

/-- A valid signature is not empty. -/
theorem Signature.isEmpty_of_isValid {message : Bytes} {signature : Signature}
    {key : FixedBytes 32} (valid : isValid message signature key = true) :
    signature.isEmpty = false := by
  obtain ⟨octets⟩ := signature
  cases octets with
  -- No octets are no signature, by the law of the curve.
  | nil =>
    have invalid := isValid_empty message key
    exact absurd (valid.symm.trans invalid) (by decide)
  | cons octet rest => rfl

/-- What a local signer answers to octets. -/
def KeyPair.answer (pair : KeyPair) (bytes : Bytes) : Signed :=
  ⟨pair.address, .ofMessage bytes pair.seed⟩

/-- The slots of a role take an answer: the role, the transaction before, and the one after. -/
inductive Takes (answer : Signed) : Role → Transaction → Transaction → Prop where
  /-- Every slot that the address owns takes the signature of an endorser. -/
  | endorser {tx : Transaction} (owned : tx.hasSigner answer.address = true) :
    Takes answer .endorser tx (tx.setSignature answer.address answer.signature)
  /-- The source's slot takes the signature of the source. -/
  | source {body : ServicePayment} (owned : body.source.address = answer.address) :
    Takes answer .serviceSource (.servicePayment body)
      (.servicePayment { body with source := body.source.sign answer.signature })
  /-- The target's slot takes the signature of the target. -/
  | target {body : ServicePayment} (owned : body.target.address = answer.address) :
    Takes answer .serviceTarget (.servicePayment body)
      (.servicePayment { body with target := body.target.sign answer.signature })

namespace Transaction

variable {σ : Type} {tx filled : Transaction} {chain : String} {role : Role} {answer : Signed}
  {bytes : Bytes}

/-- Attaching a signature succeeds exactly when the slots of the role take it. -/
theorem attach_eq_true_iff :
    tx.attach role answer = (filled, true) ↔ Takes answer role tx filled := by
  constructor
  · intro attached
    unfold attach at attached
    -- The two roles of a payment look at one owner each, and an endorser's at all of them.
    split at attached
    · split at attached
      · rename_i owned
        cases attached
        exact .source (eq_of_beq owned)
      · cases attached
    · split at attached
      · rename_i owned
        cases attached
        exact .target (eq_of_beq owned)
      · cases attached
    · obtain ⟨rfl, owned⟩ := Prod.mk.inj attached
      exact .endorser owned
    · cases attached
  · intro taken
    cases taken with
    | endorser owned => exact congrArg (Prod.mk _) owned
    | source owned => simp [attach, owned]
    | target owned => simp [attach, owned]

/-- Signing succeeds exactly when the octets exist, the signer answers, and the answer is handed
to the slots. -/
theorem sign_eq_ok_iff {signer : Signer σ} {state after : σ} {outcome : Outcome} :
    tx.sign chain role signer state = (.ok outcome, filled, after) ↔
      ∃ bytes answer, tx.roleBytes chain role = .ok bytes ∧
        signer bytes state = (.ok answer, after) ∧
        tx.attach role answer = (filled, outcome.attached) ∧
        outcome.address = answer.address := by
  unfold sign
  constructor
  · -- Either error of the way would have been the outcome.
    intro run
    split at run
    · cases run
    · rename_i bytes made
      split at run
      · cases run
      · rename_i answer left answered
        cases run
        exact ⟨bytes, answer, made, answered, rfl, rfl⟩
  · intro steps
    obtain ⟨bytes, answer, made, answered, handed, reported⟩ := steps
    obtain ⟨address, attached⟩ := outcome
    simp only at reported handed
    simp [made, answered, handed, reported]

/-- A local signer fills the slots of its role when they take its signature. -/
theorem sign_ofKeyPair {pair : KeyPair} (state : σ) (made : tx.roleBytes chain role = .ok bytes)
    (taken : Takes ⟨pair.address, .ofMessage bytes pair.seed⟩ role tx filled) :
    tx.sign chain role (Signer.ofKeyPair pair) state =
      (.ok ⟨pair.address, true⟩, filled, state) :=
  -- A key pair always answers, so only the slots are in question.
  sign_eq_ok_iff.mpr ⟨bytes, _, made, rfl, attach_eq_true_iff.mpr taken, rfl⟩

/-- The octets of an endorser exist only for kinds with endorsers, and are the general ones. -/
theorem signBytes_of_roleBytes (made : tx.roleBytes chain .endorser = .ok bytes) :
    tx.kind ≠ .servicePayment ∧ tx.signBytes chain = .ok bytes := by
  -- A payment refuses the role before any octets are made.
  cases tx with
  | servicePayment body => cases made
  | _ => exact ⟨by simp [kind], mapError_eq_ok_iff.mp made⟩

/-- Of a kind with endorsers, an address answers for its first slot and the general octets. -/
theorem slotOf_of_kind_ne {address : Address} {slot : Endorsement}
    (notPayment : tx.kind ≠ .servicePayment)
    (found : tx.endorsements.find? (fun slot => slot.address == address) = some slot) :
    tx.slotOf chain address =
      (tx.signBytes chain).map fun bytes => some (slot.signature, bytes) := by
  -- All but a payment look for the address among their endorsements.
  cases tx with
  | servicePayment body => exact absurd rfl notPayment
  | _ => simp only [slotOf, found]

/-- The source of a payment answers for its own slot, whoever the target is. -/
theorem slotOf_source (body : ServicePayment) (chain : String) :
    (servicePayment body).slotOf chain body.source.address =
      (body.sourceSignBytes chain).map fun bytes => some (body.source.signature, bytes) := by
  -- The source is compared first.
  simp [slotOf]

/-- The target of a payment answers for its own slot if it is not the source as well. -/
theorem slotOf_target {body : ServicePayment} (chain : String)
    (distinct : body.source.address ≠ body.target.address) :
    (servicePayment body).slotOf chain body.target.address =
      (body.targetSignBytes chain).map fun bytes => some (body.target.signature, bytes) := by
  -- The target is compared second, so the source must not match.
  simp [slotOf, distinct]

/-- A signature in the slots of its role is looked for where it is, under the octets it was made
for, unless the source's slot of the same account stands in front of the target's. -/
theorem slotOf_of_takes (taken : Takes answer role tx filled)
    (made : tx.roleBytes chain role = .ok bytes)
    (distinct : ∀ body, tx = .servicePayment body → role = .serviceTarget →
      body.source.address ≠ body.target.address) :
    filled.slotOf chain answer.address = .ok (some (answer.signature, bytes)) := by
  cases taken with
  | endorser owned =>
    -- The slots are filled, and the general octets do not depend on them.
    obtain ⟨notPayment, general⟩ := signBytes_of_roleBytes made
    obtain ⟨slot, found, holds⟩ := find?_setSignature answer.signature owned
    have filledNotPayment := notPayment
    rw [← kind_setSignature tx answer.address answer.signature] at filledNotPayment
    rw [slotOf_of_kind_ne filledNotPayment found, signBytes_setSignature, general, holds]
    rfl
  | @source body owned =>
    -- The source's octets leave its own slot open.
    have own : body.sourceSignBytes chain = .ok bytes := mapError_eq_ok_iff.mp made
    have found := slotOf_source { body with source := body.source.sign answer.signature } chain
    rw [← owned]
    exact found.trans (congrArg (Except.map _) own)
  | @target body owned =>
    -- The target's octets leave its own slot open.
    have own : body.targetSignBytes chain = .ok bytes := mapError_eq_ok_iff.mp made
    let signed := { body with target := body.target.sign answer.signature }
    have apart : signed.source.address ≠ signed.target.address := distinct body rfl rfl
    rw [← owned]
    exact (slotOf_target chain apart).trans (congrArg (Except.map _) own)

/-- A key whose slot is found is answered with the validity of the signature in it. -/
theorem verify_of_slotOf {key : FixedBytes 32} {signature : Signature}
    (found : tx.slotOf chain (Address.ofPublicKey key) = .ok (some (signature, bytes))) :
    tx.verify chain key = .ok (Signature.isValid bytes signature key) := by
  rw [verify, found]
  -- An empty slot is answered with no, which is right, for it holds nothing valid.
  cases valid : Signature.isValid bytes signature key with
  | false => simp [bind, Except.bind, pure, Except.pure, valid]
  | true =>
    simp [bind, Except.bind, pure, Except.pure, valid, Signature.isEmpty_of_isValid valid]

/-- The source's octets can be written whenever the target's can. -/
theorem exists_sourceSignBytes {body : ServicePayment}
    (made : body.targetSignBytes chain = .ok bytes) :
    ∃ sourceBytes, body.sourceSignBytes chain = .ok sourceBytes := by
  have nonnegative := ((Preimage.target body).exists_octets_iff chain).mp ⟨bytes, made⟩
  refine ((Preimage.source body).exists_octets_iff chain).mpr ?_
  -- What the source pays is among what the target covers.
  intro value paid
  exact nonnegative value (List.mem_append_left _ (List.mem_append_right _ paid))

/-- A valid signature in the slots of its role is found valid if the role's slot is the first of
its account. -/
theorem verify_of_takes {key : FixedBytes 32} (taken : Takes answer role tx filled)
    (owner : answer.address = Address.ofPublicKey key)
    (made : tx.roleBytes chain role = .ok bytes)
    (valid : Signature.isValid bytes answer.signature key = true)
    (distinct : ∀ body, tx = .servicePayment body → role = .serviceTarget →
      body.source.address ≠ body.target.address) :
    filled.verify chain key = .ok true := by
  -- The slot that has taken the signature is the one that the address answers for.
  have found := slotOf_of_takes taken made distinct
  rw [owner] at found
  rw [verify_of_slotOf found, valid]

/-- The key of an account that pays itself is answered with the validity of its signature as the
source, whatever it has signed as the target. -/
theorem verify_of_own {key : FixedBytes 32} {body : ServicePayment} (signature : Signature)
    (own : body.source.address = body.target.address)
    (owner : body.target.address = Address.ofPublicKey key)
    (made : body.sourceSignBytes chain = .ok bytes) :
    (servicePayment { body with target := body.target.sign signature }).verify chain key =
      .ok (Signature.isValid bytes body.source.signature key) := by
  -- The source's octets leave all of the target open but its address.
  have found := slotOf_source { body with target := body.target.sign signature } chain
  have unchanged : ServicePayment.sourceSignBytes
      { body with target := body.target.sign signature } chain = .ok bytes := made
  have sourceOwner : body.source.address = Address.ofPublicKey key := own.trans owner
  rw [unchanged, sourceOwner] at found
  exact verify_of_slotOf found

/-- After a local signature reached the slots of its role, its key is answered with yes, except
that the target of a payment to itself is answered with the validity of its source signature. -/
theorem verify_sign_iff {seed : FixedBytes 32} {state after : σ} {outcome : Outcome}
    (accepts : ∀ bytes, tx.roleBytes chain role = .ok bytes →
      Signature.isValid bytes (.ofMessage bytes seed) (KeyPair.ofSeed seed).key = true)
    (run : tx.sign chain role (Signer.ofKeyPair (.ofSeed seed)) state =
      (.ok outcome, filled, after))
    (attached : outcome.attached = true) :
    ∃ answer, filled.verify chain (KeyPair.ofSeed seed).key = .ok answer ∧
      (answer = true ↔
        ∀ body, tx = .servicePayment body → role = .serviceTarget →
          body.source.address = body.target.address →
          ∃ bytes, body.sourceSignBytes chain = .ok bytes ∧
            Signature.isValid bytes body.source.signature (KeyPair.ofSeed seed).key = true) := by
  obtain ⟨bytes, answer, made, answered, handed, -⟩ := sign_eq_ok_iff.mp run
  rw [attached] at handed
  have taken := attach_eq_true_iff.mp handed
  cases answered
  by_cases own : ∃ body, tx = .servicePayment body ∧ role = .serviceTarget ∧
      body.source.address = body.target.address
  · -- The source's slot stands in front, and decides.
    obtain ⟨body, rfl, rfl, same⟩ := own
    cases taken with
    | target owned =>
      obtain ⟨sourceBytes, sourceMade⟩ := exists_sourceSignBytes (mapError_eq_ok_iff.mp made)
      refine ⟨_, verify_of_own _ same owned sourceMade, ?_⟩
      constructor
      · intro valid other sameBody _ _
        cases sameBody
        exact ⟨sourceBytes, sourceMade, valid⟩
      · intro decided
        obtain ⟨otherBytes, otherMade, valid⟩ := decided body rfl rfl same
        rw [sourceMade] at otherMade
        cases otherMade
        exact valid
  · -- The role's slot is the first of its account.
    have distinct : ∀ body, tx = .servicePayment body → role = .serviceTarget →
        body.source.address ≠ body.target.address :=
      fun body payment target same => own ⟨body, payment, target, same⟩
    refine ⟨true, verify_of_takes taken rfl made (accepts bytes made) distinct, ?_⟩
    constructor
    · intro _ body payment target same
      exact absurd same (distinct body payment target)
    · intro _
      rfl

/-- The key pair of a seed that is one followed by zeros. -/
def issuer : KeyPair := .ofSeed (.leftJustified [1])

/-- The address of the issuer. -/
def issuerAddress : Address :=
  ⟨[0x88, 0x32, 0x77, 0x03, 0x51, 0xD8, 0xB2, 0x6E, 0x0B, 0x55, 0x9B, 0xA2, 0x4C,
    0xD1, 0xE1, 0x40, 0xC8, 0xD4, 0xC0, 0x47], rfl⟩

/-- The octets of the issuer's address are those of its key's digest. -/
theorem address_issuer : Address.ofPublicKey issuer.key = issuerAddress :=
  calc Address.ofPublicKey issuer.key
    _ = KeyPair.addressWords (.leftJustified [1]) := KeyPair.address_ofSeed _
    -- The digest behind the words is computed once, here.
    _ = issuerAddress := by decide +kernel

/-- A payment that nobody has signed, of the issuer to another account. -/
def issuedPayment : ServicePayment where
  fee := ⟨1, 0⟩
  source := .unsigned issuer.address ⟨2, 0⟩ 3
  target := .unsigned .zero ⟨0, 4⟩ 5
  paymentSequence := 6
  reserveSequence := 7
  resourceId := "r"

/-- The octets that the issuer signs exist, and its signature of them is valid. -/
theorem exists_voucher :
    ∃ bytes, issuedPayment.sourceSignBytes "net" = .ok bytes ∧
      Signature.isValid bytes (.ofMessage bytes issuer.seed) issuer.key = true := by
  have owner : issuer.address = issuerAddress := address_issuer
  suffices accepted : ((issuedPayment.sourceSignBytes "net").toOption.any fun bytes =>
      Signature.isValid bytes (.ofMessage bytes issuer.seed) issuer.key) = true from
    exists_of_any accepted
  -- What is left to check of the signature is computed.
  simp only [Signature.isValid_ofMessage (rfl : issuer.key = Curve.publicKey issuer.seed),
    issuedPayment, owner]
  decide +kernel

/-- The issuer signs its payment as the source and is answered with yes. -/
theorem verify_sign_iff_issuedPayment :
    ∃ outcome filled, (servicePayment issuedPayment).sign "net" .serviceSource
        (Signer.ofKeyPair issuer) () = (.ok outcome, filled, ()) ∧
      outcome.attached = true ∧ filled.verify "net" issuer.key = .ok true := by
  obtain ⟨bytes, made, valid⟩ := exists_voucher
  have roleMade : (servicePayment issuedPayment).roleBytes "net" .serviceSource = .ok bytes := by
    rw [roleBytes, made]
    rfl
  have accepts : ∀ other, (servicePayment issuedPayment).roleBytes "net" .serviceSource =
      .ok other → Signature.isValid other (.ofMessage other issuer.seed) issuer.key = true := by
    intro other otherMade
    rw [roleMade] at otherMade
    cases otherMade
    exact valid
  have run := sign_ofKeyPair () roleMade (.source rfl)
  obtain ⟨answer, verified, decided⟩ := verify_sign_iff accepts run rfl
  -- The role is not the target's, so nothing stands in front of its slot.
  have yes : answer = true := decided.mpr (by intro _ _ target; cases target)
  rw [yes] at verified
  exact ⟨_, _, run, rfl, verified⟩

/-- A payment that nobody has signed, of an account to itself. -/
def ownPayment (account : Address) : ServicePayment where
  fee := ⟨1, 0⟩
  source := .unsigned account ⟨5, 0⟩ 1
  target := .unsigned account .zero 2
  paymentSequence := 3
  reserveSequence := 4
  resourceId := "rid"

/-- An account that pays itself has signed as the target and is answered with no. -/
theorem verify_sign_ownPayment :
    ∃ outcome filled, (servicePayment (ownPayment (KeyPair.ofSecret "alice").address)).sign "net"
        .serviceTarget (Signer.ofKeyPair (.ofSecret "alice")) () = (.ok outcome, filled, ()) ∧
      outcome.attached = true ∧
      filled.verify "net" (KeyPair.ofSecret "alice").key = .ok false := by
  generalize KeyPair.ofSecret "alice" = pair
  -- No integer is negative, so both views have octets.
  have listed : (servicePayment (ownPayment pair.address).targetView).integers =
      [1, 0, 5, 0, 0, 0] := rfl
  have nonnegative : ∀ value ∈
      (servicePayment (ownPayment pair.address).targetView).integers, 0 ≤ value := by
    rw [listed]
    decide
  obtain ⟨wire, written⟩ := exists_encode nonnegative
  have made : (ownPayment pair.address).targetSignBytes "net" = .ok (envelope "net" wire) :=
    map_eq_ok_iff.mpr ⟨wire, written, rfl⟩
  obtain ⟨sourceBytes, sourceMade⟩ := exists_sourceSignBytes made
  have roleMade : (servicePayment (ownPayment pair.address)).roleBytes "net" .serviceTarget =
      .ok (envelope "net" wire) := by
    rw [roleBytes, made]
    rfl
  have run := sign_ofKeyPair () roleMade (.target rfl)
  refine ⟨_, _, run, rfl, ?_⟩
  -- The empty slot of the source stands in front.
  rw [verify_of_own _ rfl rfl sourceMade]
  exact congrArg Except.ok (Signature.isValid_empty _ _)

end Transaction

end Countersign
