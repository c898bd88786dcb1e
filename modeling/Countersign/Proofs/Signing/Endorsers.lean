import Countersign.Proofs.Signing.Coverage
import Countersign.Proofs.Signing.Filling

/-! Endorsers that sign in turn: all of them sign the same octets, so none disturbs another, and
when all owners of slots have signed, every slot is filled and every owner's key is answered with
yes. -/

namespace Countersign

namespace Transaction

variable {σ : Type} {tx : Transaction} {chain : String} {bytes : Bytes}

/-- Of a kind with endorsers, the octets of an endorser are the general ones. -/
theorem roleBytes_endorser (notPayment : tx.kind ≠ .servicePayment)
    (made : tx.signBytes chain = .ok bytes) : tx.roleBytes chain .endorser = .ok bytes := by
  -- A payment has no endorsers, and every other kind has the role.
  cases tx with
  | servicePayment body => exact absurd rfl notPayment
  | _ => exact mapError_eq_ok_iff.mpr made

/-- A local endorser always signs, and fills the slots that it owns, which may be none. -/
theorem sign_endorser (notPayment : tx.kind ≠ .servicePayment)
    (made : tx.signBytes chain = .ok bytes) (pair : KeyPair) (state : σ) :
    tx.sign chain .endorser (Signer.ofKeyPair pair) state =
      (.ok ⟨pair.address, decide (pair.address ∈ tx.signers)⟩,
        tx.setSignature pair.address (.ofMessage bytes pair.seed), state) := by
  -- The answer tests what the statement decides: whether the account is to sign.
  have owns : decide (pair.address ∈ tx.signers) = tx.hasSigner pair.address := by
    rw [Bool.eq_iff_iff, decide_eq_true_iff, hasSigner_eq_true_iff]
  rw [owns]
  refine sign_eq_ok_iff.mpr ⟨bytes, pair.answer bytes, roleBytes_endorser notPayment made, rfl, ?_⟩
  cases tx <;> exact ⟨rfl, rfl⟩

/-- Local endorsers in turn all sign the octets that the first of them signs. -/
theorem signAll_ofKeyPair (notPayment : tx.kind ≠ .servicePayment)
    (made : tx.signBytes chain = .ok bytes) (pairs : List KeyPair) (state : σ) :
    tx.signAll chain state (pairs.map Signer.ofKeyPair) =
      (.ok (pairs.map fun pair => ⟨pair.address, decide (pair.address ∈ tx.signers)⟩),
        tx.setSignatures (pairs.map fun pair => pair.answer bytes), state) := by
  -- What one of them fills changes neither the octets nor the owners for the others.
  induction pairs generalizing tx with
  | nil => rfl
  | cons pair rest ih =>
    have next : (tx.setSignature pair.address (.ofMessage bytes pair.seed)).kind ≠
        .servicePayment := by rwa [kind_setSignature]
    have madeNext : (tx.setSignature pair.address
        (.ofMessage bytes pair.seed)).signBytes chain = .ok bytes := by
      rwa [signBytes_setSignature]
    rw [List.map_cons, signAll, sign_endorser notPayment made pair state]
    simp only [ih next madeNext, signers_setSignature]
    rfl

/-- The general octets of a transaction without negative integers exist. -/
theorem exists_signBytes (nonnegative : ∀ value ∈ tx.integers, 0 ≤ value) (chain : String) :
    ∃ bytes, tx.signBytes chain = .ok bytes :=
  -- An endorser's preimage has the integers of the transaction.
  ((Preimage.endorsers tx).exists_octets_iff chain).mpr nonnegative

/-- Answers of different accounts have different addresses. -/
theorem nodup_answers {pairs : List KeyPair} (distinct : (pairs.map KeyPair.address).Nodup) :
    ((pairs.map fun pair => pair.answer bytes).map Signed.address).Nodup := by
  -- An answer has the address of its key pair.
  rw [List.map_map]
  exact distinct

/-- Each of the accounts that have signed could have been the last one. -/
theorem exists_answer_last (tx : Transaction) (bytes : Bytes) {pairs : List KeyPair}
    {pair : KeyPair} (distinct : (pairs.map KeyPair.address).Nodup) (member : pair ∈ pairs) :
    ∃ rest, tx.setSignatures (pairs.map fun pair => pair.answer bytes) =
      (tx.setSignatures rest).setSignature pair.address (.ofMessage bytes pair.seed) :=
  -- The order of the answers makes no difference, so this one may end it.
  exists_setSignatures_last tx (List.mem_map_of_mem member) (nodup_answers distinct)

/-- A key whose account has signed together with others is answered with yes. -/
theorem verify_setSignatures {pairs : List KeyPair} {pair : KeyPair}
    (notPayment : tx.kind ≠ .servicePayment) (made : tx.signBytes chain = .ok bytes)
    (distinct : (pairs.map KeyPair.address).Nodup) (member : pair ∈ pairs)
    (owner : pair.address ∈ tx.signers)
    (valid : Signature.isValid bytes (.ofMessage bytes pair.seed) pair.key = true) :
    (tx.setSignatures (pairs.map fun pair => pair.answer bytes)).verify chain pair.key =
      .ok true := by
  -- As the last one, the signature is found in the slots that it has just filled.
  obtain ⟨rest, last⟩ := exists_answer_last tx bytes distinct member
  have owned : (tx.setSignatures rest).hasSigner (pair.answer bytes).address = true := by
    rw [hasSigner_eq_true_iff, signers_setSignatures]
    exact owner
  have octets : (tx.setSignatures rest).roleBytes chain .endorser = .ok bytes := by
    apply roleBytes_endorser
    · rwa [kind_setSignatures]
    · rwa [signBytes_setSignatures]
  rw [last]
  exact verify_of_takes (.endorser owned) rfl octets valid (fun _ _ role => by cases role)

/-- When all owners of slots have signed, every slot is filled. -/
theorem isFullySigned_setSignatures {pairs : List KeyPair}
    (distinct : (pairs.map KeyPair.address).Nodup)
    (covered : ∀ address ∈ tx.signers, address ∈ pairs.map KeyPair.address) :
    (tx.setSignatures (pairs.map fun pair => pair.answer bytes)).isFullySigned = true := by
  rw [isFullySigned, List.all_eq_true]
  intro slot slotMember
  have owner : slot.address ∈ tx.signers := by
    rw [← signers_setSignatures tx (pairs.map fun pair => pair.answer bytes)]
    exact List.mem_map_of_mem slotMember
  obtain ⟨pair, member, owned⟩ := List.mem_map.mp (covered slot.address owner)
  -- As the last one, the owner's signature is what the slot holds, and it has octets.
  obtain ⟨rest, last⟩ := exists_answer_last tx bytes distinct member
  rw [last] at slotMember
  have held := signature_of_mem_setSignature slotMember owned.symm
  rw [Endorsement.isSigned, held, Signature.isEmpty_ofMessage]
  rfl

/-- Local endorsers of different accounts sign in turn: all of them sign, each fills the slots of
its account if it owns any, and the result does not depend on their order. Afterwards the key of
each account that owns a slot is answered with yes, and no slot is empty if all owners signed. -/
theorem signAll_localSigners {pairs : List KeyPair} (state : σ)
    (notPayment : tx.kind ≠ .servicePayment) (nonnegative : ∀ value ∈ tx.integers, 0 ≤ value)
    (distinct : (pairs.map KeyPair.address).Nodup)
    (accepts : ∀ pair ∈ pairs, pair.address ∈ tx.signers →
      ∀ bytes, tx.signBytes chain = .ok bytes →
        Signature.isValid bytes (.ofMessage bytes pair.seed) pair.key = true) :
    ∃ final,
      tx.signAll chain state (pairs.map Signer.ofKeyPair) =
        (.ok (pairs.map fun pair => ⟨pair.address, decide (pair.address ∈ tx.signers)⟩),
          final, state) ∧
      (∀ order : List KeyPair, order.Perm pairs →
        (tx.signAll chain state (order.map Signer.ofKeyPair)).2.1 = final) ∧
      (∀ pair ∈ pairs, pair.address ∈ tx.signers →
        final.verify chain pair.key = .ok true) ∧
      ((∀ address ∈ tx.signers, address ∈ pairs.map KeyPair.address) →
        final.isFullySigned = true) := by
  obtain ⟨bytes, made⟩ := exists_signBytes nonnegative chain
  refine ⟨_, signAll_ofKeyPair notPayment made pairs state, ?_, ?_, ?_⟩
  · intro order perm
    -- The answers are in another order as well, and they are of different accounts.
    have answers := perm.map fun pair => pair.answer bytes
    rw [signAll_ofKeyPair notPayment made order state]
    exact (setSignatures_perm tx answers.symm (nodup_answers distinct)).symm
  · intro pair member owner
    exact verify_setSignatures notPayment made distinct member owner
      (accepts pair member owner bytes made)
  · exact isFullySigned_setSignatures distinct

/-- The issuer and its partner sign their transfer in either order: both fill their slots, both keys
are answered with yes, and no slot is empty. -/
theorem signAll_localSigners_sharedTransfer :
    ∃ final,
      (sharedTransfer .empty .empty .empty).signAll "net" ()
          [Signer.ofKeyPair issuer, Signer.ofKeyPair partner] =
        (.ok [⟨issuerAddress, true⟩, ⟨partnerAddress, true⟩], final, ()) ∧
      ((sharedTransfer .empty .empty .empty).signAll "net" ()
          [Signer.ofKeyPair partner, Signer.ofKeyPair issuer]).2.1 = final ∧
      final.verify "net" issuer.key = .ok true ∧ final.verify "net" partner.key = .ok true ∧
      final.isFullySigned = true := by
  -- What both accounts sign exists and is valid.
  obtain ⟨bytes, made, issuerValid, partnerValid⟩ := exists_sharedBytes
  have issuerOwner : issuer.address = issuerAddress := address_issuer
  have partnerOwner : partner.address = partnerAddress := address_partner
  have listed : (sharedTransfer .empty .empty .empty).signers =
      [issuerAddress, partnerAddress, issuerAddress] := rfl
  have nonnegative : ∀ value ∈ (sharedTransfer .empty .empty .empty).integers, 0 ≤ value := by
    decide
  have distinct : ([issuer, partner].map KeyPair.address).Nodup := by
    rw [List.map_cons, List.map_cons, issuerOwner, partnerOwner]
    decide
  -- Each of the two keys is accepted for the octets it signs.
  have accepts : ∀ pair ∈ [issuer, partner],
      pair.address ∈ (sharedTransfer .empty .empty .empty).signers →
      ∀ other, (sharedTransfer .empty .empty .empty).signBytes "net" = .ok other →
        Signature.isValid other (.ofMessage other pair.seed) pair.key = true := by
    intro pair member _ other otherMade
    obtain rfl : bytes = other := Except.ok.inj (made.symm.trans otherMade)
    rcases List.mem_pair.mp member with rfl | rfl
    · exact issuerValid
    · exact partnerValid
  -- With that both orders, the answers and the full slots follow.
  obtain ⟨final, signed, ordered, answered, filled⟩ :=
    signAll_localSigners () (by decide) nonnegative distinct accepts
  have issuerListed : issuerAddress ∈ (sharedTransfer .empty .empty .empty).signers := by
    rw [listed]
    decide
  have partnerListed : partnerAddress ∈ (sharedTransfer .empty .empty .empty).signers := by
    rw [listed]
    decide
  -- The two accounts own all three slots.
  have covered : ∀ address ∈ (sharedTransfer .empty .empty .empty).signers,
      address ∈ [issuer, partner].map KeyPair.address := by
    rw [listed, List.map_cons, List.map_cons, issuerOwner, partnerOwner]
    decide
  refine ⟨final, ?_, ordered [partner, issuer] (.swap issuer partner []), ?_, ?_, filled covered⟩
  · simpa only [List.map_cons, List.map_nil, issuerOwner, partnerOwner, issuerListed,
      partnerListed, decide_true] using signed
  · exact answered issuer List.mem_cons_self (by rwa [issuerOwner])
  · exact answered partner (List.mem_cons_of_mem _ List.mem_cons_self) (by rwa [partnerOwner])

end Transaction

end Countersign
