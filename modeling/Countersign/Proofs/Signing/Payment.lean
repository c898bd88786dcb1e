import Countersign.Proofs.Signing.Coverage

/-! The two signatures of a service payment: the source issues it and the target claims it, and the
source's signature stays valid whatever becomes of the fields that its voucher leaves open. -/

namespace Countersign

namespace ServicePayment

/-- A payment with the source's signature. -/
def issue (body : ServicePayment) (signature : Signature) : ServicePayment :=
  { body with source := body.source.sign signature }

/-- A payment with the target's signature. -/
def claim (body : ServicePayment) (signature : Signature) : ServicePayment :=
  { body with target := body.target.sign signature }

/-- A payment with other values in the fields that the source's voucher leaves open. -/
def revise (body : ServicePayment) (fee : Amount) (sourceSequence : UInt64) (received : Amount)
    (targetSequence : UInt64) (targetSignature : Signature) : ServicePayment :=
  -- The source keeps its address, its amount and its signature, the target its address.
  { body with
    fee := fee
    source := { body.source with sequence := sourceSequence }
    target := ⟨body.target.address, received, targetSequence, targetSignature⟩ }

end ServicePayment

namespace Transaction

variable {σ : Type} {chain : String} {body : ServicePayment} {pair : KeyPair} {bytes : Bytes}

/-- The target's octets exist if no integer of the payment is negative. -/
theorem exists_targetSignBytes (nonnegative : ∀ value ∈ (servicePayment body).integers, 0 ≤ value)
    (chain : String) : ∃ bytes, body.targetSignBytes chain = .ok bytes :=
  -- The target covers the whole payment, and so all of its integers.
  ((Preimage.target body).exists_octets_iff chain).mpr nonnegative

/-- The answer to the source's key depends on nothing but the voucher and the source's slot. -/
theorem verify_source_congr (other : ServicePayment) {key : FixedBytes 32}
    (owner : body.source.address = Address.ofPublicKey key)
    (sameVoucher : other.sourceView = body.sourceView)
    (sameSignature : other.source.signature = body.source.signature) :
    (servicePayment other).verify chain key = (servicePayment body).verify chain key := by
  have sameAddress : other.source.address = body.source.address := by
    have ofViews := congrArg (fun view : ServicePayment => view.source.address) sameVoucher
    exact ofViews
  have sameOctets : other.sourceSignBytes chain = body.sourceSignBytes chain := by
    rw [ServicePayment.sourceSignBytes, sameVoucher, ServicePayment.sourceSignBytes]
  -- Both answers come from the source's slot under the same octets.
  have found := slotOf_source body chain
  have otherFound := slotOf_source other chain
  rw [owner] at found
  rw [sameAddress, owner, sameOctets, sameSignature] at otherFound
  rw [verify, verify, found, otherFound]

/-- The owner of the source's slot signs the voucher and issues the payment. -/
theorem sign_issue (state : σ) (owner : pair.address = body.source.address)
    (made : body.sourceSignBytes chain = .ok bytes) :
    (servicePayment body).sign chain .serviceSource (Signer.ofKeyPair pair) state =
      (.ok ⟨pair.address, true⟩,
        servicePayment (body.issue (.ofMessage bytes pair.seed)), state) :=
  -- The source's role takes the signature of its owner.
  sign_ofKeyPair state (mapError_eq_ok_iff.mpr made) (.source owner.symm)

/-- The owner of the target's slot signs the issued payment and claims it. -/
theorem sign_claim (state : σ) (owner : pair.address = body.target.address)
    (made : body.targetSignBytes chain = .ok bytes) :
    (servicePayment body).sign chain .serviceTarget (Signer.ofKeyPair pair) state =
      (.ok ⟨pair.address, true⟩,
        servicePayment (body.claim (.ofMessage bytes pair.seed)), state) :=
  -- The target's role takes the signature of its owner.
  sign_ofKeyPair state (mapError_eq_ok_iff.mpr made) (.target owner.symm)

/-- The source's key is answered with yes once the payment is issued. -/
theorem verify_issue (owner : pair.address = body.source.address)
    (made : body.sourceSignBytes chain = .ok bytes)
    (valid : Signature.isValid bytes (.ofMessage bytes pair.seed) pair.key = true) :
    (servicePayment (body.issue (.ofMessage bytes pair.seed))).verify chain pair.key =
      .ok true := by
  have taken : Takes (pair.answer bytes) .serviceSource (.servicePayment body)
      (.servicePayment (body.issue (.ofMessage bytes pair.seed))) := .source owner.symm
  -- The source is the first of its account, so the addresses need not differ.
  exact verify_of_takes taken rfl (mapError_eq_ok_iff.mpr made) valid
    (fun _ _ role => by cases role)

/-- The target's key is answered with yes once the payment is claimed, if it has another owner than
the source's slot. -/
theorem verify_claim (distinct : body.source.address ≠ body.target.address)
    (owner : pair.address = body.target.address)
    (made : body.targetSignBytes chain = .ok bytes)
    (valid : Signature.isValid bytes (.ofMessage bytes pair.seed) pair.key = true) :
    (servicePayment (body.claim (.ofMessage bytes pair.seed))).verify chain pair.key =
      .ok true := by
  have taken : Takes (pair.answer bytes) .serviceTarget (.servicePayment body)
      (.servicePayment (body.claim (.ofMessage bytes pair.seed))) := .target owner.symm
  apply verify_of_takes taken rfl (mapError_eq_ok_iff.mpr made) valid
  -- Were both parties one account, the source's slot would be looked at instead.
  intro paid payment _
  cases payment
  exact distinct

/-- The source and the target of a payment sign in turn, and both keys are answered with yes. The
source's stays so whatever becomes of the fee, of the sequence of the source, and of the amount, the
sequence and the signature of the target. -/
theorem verify_issue_claim {source target : KeyPair} (state : σ)
    (distinct : body.source.address ≠ body.target.address)
    (nonnegative : ∀ value ∈ (servicePayment body).integers, 0 ≤ value)
    (ownsSource : source.address = body.source.address)
    (ownsTarget : target.address = body.target.address)
    (sourceAccepts : ∀ bytes, body.sourceSignBytes chain = .ok bytes →
      Signature.isValid bytes (.ofMessage bytes source.seed) source.key = true)
    (targetAccepts : ∀ voucher bytes, body.sourceSignBytes chain = .ok voucher →
      (body.issue (.ofMessage voucher source.seed)).targetSignBytes chain = .ok bytes →
      Signature.isValid bytes (.ofMessage bytes target.seed) target.key = true) :
    ∃ issued claimed,
      (servicePayment body).sign chain .serviceSource (Signer.ofKeyPair source) state =
        (.ok ⟨source.address, true⟩, .servicePayment issued, state) ∧
      (servicePayment issued).sign chain .serviceTarget (Signer.ofKeyPair target) state =
        (.ok ⟨target.address, true⟩, .servicePayment claimed, state) ∧
      (servicePayment claimed).verify chain source.key = .ok true ∧
      (servicePayment claimed).verify chain target.key = .ok true ∧
      ∀ fee sourceSequence received targetSequence targetSignature,
        (servicePayment (claimed.revise fee sourceSequence received targetSequence
          targetSignature)).verify chain source.key = .ok true := by
  obtain ⟨unissued, unissuedMade⟩ := exists_targetSignBytes nonnegative chain
  obtain ⟨voucher, voucherMade⟩ := exists_sourceSignBytes unissuedMade
  let issued := body.issue (.ofMessage voucher source.seed)
  -- The source's signature adds no integers to what the target signs.
  have issuedNonnegative : ∀ value ∈ (servicePayment issued).integers, 0 ≤ value := nonnegative
  obtain ⟨bytes, bytesMade⟩ := exists_targetSignBytes issuedNonnegative chain
  let claimed := issued.claim (.ofMessage bytes target.seed)
  have issuedAnswer : (servicePayment issued).verify chain source.key = .ok true :=
    verify_issue ownsSource voucherMade (sourceAccepts voucher voucherMade)
  have owner : issued.source.address = Address.ofPublicKey source.key := ownsSource.symm
  refine ⟨issued, claimed, sign_issue state ownsSource voucherMade,
    sign_claim state ownsTarget bytesMade, ?_, ?_, ?_⟩
  · -- The target's signature touches neither the voucher nor the source's slot.
    exact (verify_source_congr claimed owner rfl rfl).trans issuedAnswer
  · exact verify_claim distinct ownsTarget bytesMade
      (targetAccepts voucher bytes voucherMade bytesMade)
  · -- Neither does a revision.
    intro fee sourceSequence received targetSequence targetSignature
    let revised := claimed.revise fee sourceSequence received targetSequence targetSignature
    exact (verify_source_congr revised owner rfl rfl).trans issuedAnswer

/-- A payment of the issuer to its partner that nobody has signed. -/
def partnerPayment : ServicePayment where
  fee := ⟨1, 0⟩
  source := .unsigned issuerAddress ⟨2, 0⟩ 3
  target := .unsigned partnerAddress ⟨0, 4⟩ 5
  paymentSequence := 6
  reserveSequence := 7
  resourceId := "r"

/-- The octets that both parties sign exist, and their signatures of them are valid. -/
theorem exists_partnerBytes :
    ∃ voucher bytes, partnerPayment.sourceSignBytes "net" = .ok voucher ∧
      (partnerPayment.issue (.ofMessage voucher issuer.seed)).targetSignBytes "net" =
        .ok bytes ∧
      Signature.isValid voucher (.ofMessage voucher issuer.seed) issuer.key = true ∧
      Signature.isValid bytes (.ofMessage bytes partner.seed) partner.key = true := by
  suffices accepted : ((partnerPayment.sourceSignBytes "net").toOption.any fun voucher =>
      Signature.isValid voucher (.ofMessage voucher issuer.seed) issuer.key &&
        ((partnerPayment.issue (.ofMessage voucher issuer.seed)).targetSignBytes
          "net").toOption.any fun bytes =>
            Signature.isValid bytes (.ofMessage bytes partner.seed) partner.key) = true by
    obtain ⟨voucher, voucherMade, bothAccepted⟩ := exists_of_any accepted
    rw [Bool.and_eq_true] at bothAccepted
    obtain ⟨voucherAccepted, targetAccepted⟩ := bothAccepted
    obtain ⟨bytes, made, bytesAccepted⟩ := exists_of_any targetAccepted
    exact ⟨voucher, bytes, voucherMade, made, voucherAccepted, bytesAccepted⟩
  simp only [Signature.isValid_ofMessage (rfl : issuer.key = Curve.publicKey issuer.seed),
    Signature.isValid_ofMessage (rfl : partner.key = Curve.publicKey partner.seed)]
  -- The voucher's signature is part of what the partner signs.
  simp only [Signature.ofMessage, Curve.sign, Curve.publicKey, Curve.expandSeed_eq,
    Curve.challenge_eq, Hash.keccak256_eq_digest]
  decide +kernel

/-- The issuer and its partner sign the payment, and the issuer's key is still answered with yes
when the fee and the partner's amount are negative and the partner's signature is gone. -/
theorem verify_issue_claim_partnerPayment :
    ∃ issued claimed,
      (servicePayment partnerPayment).sign "net" .serviceSource (Signer.ofKeyPair issuer) () =
        (.ok ⟨issuer.address, true⟩, .servicePayment issued, ()) ∧
      (servicePayment issued).sign "net" .serviceTarget (Signer.ofKeyPair partner) () =
        (.ok ⟨partner.address, true⟩, .servicePayment claimed, ()) ∧
      (servicePayment claimed).verify "net" issuer.key = .ok true ∧
      (servicePayment claimed).verify "net" partner.key = .ok true ∧
      (servicePayment (claimed.revise ⟨-1, 0⟩ 9 ⟨0, -1⟩ 9 .empty)).verify "net" issuer.key =
        .ok true := by
  -- Both octets exist, and what the accounts sign of them is valid.
  obtain ⟨voucher, bytes, voucherMade, made, voucherAccepted, accepted⟩ := exists_partnerBytes
  have distinct : partnerPayment.source.address ≠ partnerPayment.target.address := by decide
  have nonnegative : ∀ value ∈ (servicePayment partnerPayment).integers, 0 ≤ value := by decide
  -- The octets are made in one way, so any others are these.
  have sourceAccepts : ∀ other, partnerPayment.sourceSignBytes "net" = .ok other →
      Signature.isValid other (.ofMessage other issuer.seed) issuer.key = true := by
    intro other otherMade
    obtain rfl : voucher = other := Except.ok.inj (voucherMade.symm.trans otherMade)
    exact voucherAccepted
  have targetAccepts : ∀ otherVoucher other,
      partnerPayment.sourceSignBytes "net" = .ok otherVoucher →
      (partnerPayment.issue (.ofMessage otherVoucher issuer.seed)).targetSignBytes "net" =
        .ok other →
      Signature.isValid other (.ofMessage other partner.seed) partner.key = true := by
    intro otherVoucher other otherVoucherMade otherMade
    obtain rfl : voucher = otherVoucher :=
      Except.ok.inj (voucherMade.symm.trans otherVoucherMade)
    obtain rfl : bytes = other := Except.ok.inj (made.symm.trans otherMade)
    exact accepted
  obtain ⟨issued, claimed, issuing, claiming, issuerYes, partnerYes, revised⟩ :=
    verify_issue_claim () distinct nonnegative address_issuer address_partner sourceAccepts
      targetAccepts
  exact ⟨issued, claimed, issuing, claiming, issuerYes, partnerYes,
    revised ⟨-1, 0⟩ 9 ⟨0, -1⟩ 9 .empty⟩

end Transaction

end Countersign
