import Countersign.Proofs.Signing.Runs
import Countersign.Proofs.Signing.Verification

/-! Attempts to sign: which signers are asked, in which order and for which octets, and what the
answer that counts leaves in the slots of its role. -/

namespace Countersign

/-- A role exists for a kind of transaction: payments have two parties, other kinds endorsers. -/
def Role.Fits (role : Role) (kind : Kind) : Prop := role = .endorser ↔ kind ≠ .servicePayment

/-- The slot at a place takes an answer that was given in a role. -/
def Role.Reaches (role : Role) (answer : Signed) (place : Nat) (slot : Endorsement) : Prop :=
  -- The parties of a payment have one place each, also when both are one account.
  slot.address = answer.address ∧ (role = .serviceSource → place = 0) ∧
    (role = .serviceTarget → place = 1)

instance (role : Role) (answer : Signed) (place : Nat) (slot : Endorsement) :
    Decidable (role.Reaches answer place slot) :=
  inferInstanceAs (Decidable (_ ∧ _ ∧ _))

/-- The answers that make room for another signer: none came in time, or no device took the call. -/
inductive Unavailable : Except SignerError Signed → Prop where
  /-- No answer came in time. -/
  | timeout (milliseconds : UInt64) : Unavailable (.error (.timeout milliseconds))
  /-- The device is gone. -/
  | disconnected : Unavailable (.error .disconnected)
  /-- There is no device. -/
  | deviceNotFound : Unavailable (.error .deviceNotFound)
  /-- The device works on an earlier call. -/
  | busy : Unavailable (.error .busy)

/-- Signers under names are asked for octets, each as long as those before it were unavailable: the
answer that counts, the state after it, and the calls that were made. -/
inductive Asks {ι σ : Type} (bytes : Bytes) :
    List (ι × Signer σ) → σ → Except SignerError Signed → σ → List (ι × Bytes) → Prop where
  /-- The answer counts unless the signer is unavailable and another one is left. -/
  | answered {name : ι} {signer : Signer σ} {rest : List (ι × Signer σ)} {state after : σ}
      {answer : Except SignerError Signed} (given : signer bytes state = (answer, after))
      (counts : ¬ Unavailable answer ∨ rest = []) :
      Asks bytes ((name, signer) :: rest) state answer after [(name, bytes)]
  /-- The next signer takes the place of one that is unavailable. -/
  | replaced {name : ι} {signer : Signer σ} {rest : List (ι × Signer σ)} {state between after : σ}
      {first answer : Except SignerError Signed} {calls : List (ι × Bytes)}
      (given : signer bytes state = (first, between)) (unavailable : Unavailable first)
      (others : Asks bytes rest between answer after calls) :
      Asks bytes ((name, signer) :: rest) state answer after ((name, bytes) :: calls)

/-- What the answer that counts comes to: the outcome, and the transaction that is left. -/
inductive Settles (role : Role) (tx : Transaction) :
    Except SignerError Signed → Except SigningError Outcome → Transaction → Prop where
  /-- The signer's error is reported and the transaction left as it is. -/
  | failed (error : SignerError) : Settles role tx (.error error) (.error (.signer error)) tx
  /-- No slot takes the signature, and the transaction is left as it is. -/
  | discarded {answer : Signed}
      (unreached : ∀ place slot, tx.endorsements[place]? = some slot →
        ¬ role.Reaches answer place slot) :
      Settles role tx (.ok answer) (.ok ⟨answer.address, false⟩) tx
  /-- Some slot takes the signature, all that do hold it, and nothing else changes. -/
  | attached {answer : Signed} {filled : Transaction} {place : Nat} {slot : Endorsement}
      (found : tx.endorsements[place]? = some slot) (reached : role.Reaches answer place slot)
      (agrees : filled.Agrees tx)
      (slots : filled.endorsements = tx.endorsements.mapIdx fun place slot =>
        if role.Reaches answer place slot then slot.sign answer.signature else slot) :
      Settles role tx (.ok answer) (.ok ⟨answer.address, true⟩) filled

/-- An attempt to sign with some signers: what is returned, and the calls that are made. -/
inductive Attempt {ι σ : Type} (tx : Transaction) (chain : String) (role : Role)
    (signers : List (ι × Signer σ)) (state : σ) :
    Except SigningError Outcome × Transaction × σ → List (ι × Bytes) → Prop where
  /-- Without octets nobody is asked, and nothing changes. -/
  | refused {error : SigningError} (unmade : tx.roleBytes chain role = .error error) :
      Attempt tx chain role signers state (.error error, tx, state) []
  /-- With octets, they are all that anybody is asked for. -/
  | settled {bytes : Bytes} {answer : Except SignerError Signed} {after : σ}
      {outcome : Except SigningError Outcome} {filled : Transaction} {calls : List (ι × Bytes)}
      (made : tx.roleBytes chain role = .ok bytes)
      (asked : Asks bytes signers state answer after calls)
      (settled : Settles role tx answer outcome filled) :
      Attempt tx chain role signers state (outcome, filled, after) calls

/-- The errors of a signer that another one can make up for are those of the unavailable. -/
theorem SignerError.isRecoverable_iff {error : SignerError} :
    error.isRecoverable = true ↔ Unavailable (.error error) := by
  constructor
  · intro recoverable
    -- One case for each error: the two lists name the same ones.
    cases error with
    | timeout milliseconds => exact .timeout milliseconds
    | disconnected => exact .disconnected
    | deviceNotFound => exact .deviceNotFound
    | busy => exact .busy
    | rejected => cases recoverable
    | driver wording => cases recoverable
  · intro unavailable
    cases unavailable <;> rfl

namespace Transaction

variable {ι σ : Type} {tx : Transaction} {chain : String} {role : Role} {bytes : Bytes}

/-- What is signed of a transaction in a role. -/
def preimageOf (tx : Transaction) (role : Role) : Preimage :=
  -- Only payments have more than one.
  match role, tx with
  | .serviceSource, .servicePayment body => .source body
  | .serviceTarget, .servicePayment body => .target body
  | _, tx => .endorsers tx

/-- A role that does not exist for the kind is refused, whatever the transaction holds. -/
theorem roleBytes_of_not_fits (misfit : ¬ role.Fits tx.kind) :
    tx.roleBytes chain role = .error (.roleMismatch role tx.kind) := by
  -- Payments have no endorsers, and nothing else has parties.
  cases role <;> cases tx <;> first | rfl | exact absurd (by simp [Role.Fits, kind]) misfit

/-- A role that exists signs the octets of its own preimage. -/
theorem roleBytes_of_fits (fits : role.Fits tx.kind) :
    tx.roleBytes chain role = ((tx.preimageOf role).octets chain).mapError .encode := by
  -- A role and a kind are either made for each other or excluded.
  cases role <;> cases tx <;> first | rfl | exact absurd fits (by simp [Role.Fits, kind])

/-- The octets of a role are missing if the role is, and else exactly if a negative integer stands
in what it signs. -/
theorem roleBytes_eq_error_iff {error : SigningError} :
    tx.roleBytes chain role = .error error ↔
      (¬ role.Fits tx.kind ∧ error = .roleMismatch role tx.kind) ∨
        (role.Fits tx.kind ∧ ∃ negative,
          Rlp.firstNegative (tx.preimageOf role).view.integers = some negative ∧
            error = .encode (.negativeInteger negative)) := by
  -- The role is tested before anything is written.
  by_cases fits : role.Fits tx.kind
  -- The role exists, so only writing its preimage can fail.
  · rw [roleBytes_of_fits fits, mapError_eq_error_iff, Preimage.octets_eq]
    simp only [fits, not_true, false_and, false_or, true_and, wrapped, map_eq_error_iff]
    constructor
    · intro failed
      obtain ⟨⟨negative⟩, unwritten, rfl⟩ := failed
      exact ⟨negative, encode_eq_error_iff.mp unwritten, rfl⟩
    · intro found
      obtain ⟨negative, first, rfl⟩ := found
      exact ⟨_, encode_eq_error_iff.mpr first, rfl⟩
  · rw [roleBytes_of_not_fits fits]
    simp [fits, eq_comm]

/-- A role whose octets exist is one of those that exist for the kind. -/
theorem fits_of_roleBytes (made : tx.roleBytes chain role = .ok bytes) : role.Fits tx.kind := by
  by_contra misfit
  -- Without the role there would be no octets.
  rw [roleBytes_of_not_fits misfit] at made
  cases made

/-- An endorser's signature goes into all slots of its address, wherever they are. -/
theorem settles_attach_endorser (notPayment : tx.kind ≠ .servicePayment) (answer : Signed) :
    Settles .endorser tx (.ok answer) (.ok ⟨answer.address, (tx.attach .endorser answer).2⟩)
      (tx.attach .endorser answer).1 := by
  have reaches (place : Nat) (slot : Endorsement) :
      Role.endorser.Reaches answer place slot ↔ slot.address = answer.address := by
    simp [Role.Reaches]
  have handed : tx.attach .endorser answer =
      (tx.setSignature answer.address answer.signature, tx.hasSigner answer.address) := by
    cases tx with
    | servicePayment body => exact absurd rfl notPayment
    | _ => rfl
  rw [handed]
  by_cases owned : answer.address ∈ tx.signers
  · rw [hasSigner_eq_true_iff.mpr owned]
    obtain ⟨slot, member, own⟩ := List.mem_map.mp owned
    obtain ⟨place, found⟩ := List.getElem?_of_mem member
    apply Settles.attached found ((reaches place slot).mpr own)
    · rw [← unsigned_eq_unsigned_iff, unsigned_setSignature]
    · rw [setSignature, endorsements_mapEndorsements]
      apply List.ext_getElem?
      intro place
      simp [List.getElem?_mapIdx, reaches]
  · -- A stranger's signature is dropped.
    have stranger : tx.hasSigner answer.address = false := by
      rw [← Bool.not_eq_true, hasSigner_eq_true_iff]
      exact owned
    rw [stranger, setSignature_of_not_mem answer.signature owned]
    apply Settles.discarded
    intro place slot found reached
    exact owned (List.mem_map.mpr ⟨slot, List.mem_of_getElem? found, reached.1⟩)

/-- A party's signature goes into the one slot of its role, if that is the slot of its address. -/
theorem settles_attach_party {answer : Signed} {filled : Transaction} {place : Nat}
    {slot : Endorsement} (found : tx.endorsements[place]? = some slot)
    (reaches : ∀ other any, role.Reaches answer other any ↔
      other = place ∧ any.address = answer.address)
    (handed : tx.attach role answer =
      if slot.address == answer.address then (filled, true) else (tx, false))
    (agrees : filled.Agrees tx)
    (slots : filled.endorsements = tx.endorsements.set place (slot.sign answer.signature)) :
    Settles role tx (.ok answer) (.ok ⟨answer.address, (tx.attach role answer).2⟩)
      (tx.attach role answer).1 := by
  rw [handed]
  -- The account of the answer is compared with one slot only.
  by_cases owned : slot.address = answer.address
  · simp only [owned, beq_self_eq_true, if_true]
    apply Settles.attached found ((reaches place slot).mpr ⟨rfl, owned⟩) agrees
    rw [slots]
    -- The role reaches this place and no other, so the lists agree place by place.
    apply List.ext_getElem?
    intro other
    by_cases same : other = place
    · subst same
      obtain ⟨inside, holds⟩ := List.getElem?_eq_some_iff.mp found
      simp [reaches, inside, holds, owned]
    · simp [List.getElem?_mapIdx, reaches, same, Ne.symm same]
  · simp only [beq_iff_eq, owned, if_false]
    -- The place it would reach is another account's, so it reaches none.
    apply Settles.discarded
    intro other any otherFound reached
    obtain ⟨rfl, own⟩ := (reaches other any).mp reached
    cases found.symm.trans otherFound
    exact owned own

/-- A signature that is handed to the slots of a role goes into those that the role reaches. -/
theorem settles_attach (fits : role.Fits tx.kind) (answer : Signed) :
    Settles role tx (.ok answer) (.ok ⟨answer.address, (tx.attach role answer).2⟩)
      (tx.attach role answer).1 := by
  cases role with
  -- Endorsers have the slots of a list, the two parties of a payment one each.
  | endorser => exact settles_attach_endorser (fits.mp rfl) answer
  | serviceSource =>
    cases tx with
    | servicePayment body =>
      have found : (servicePayment body).endorsements[0]? = some body.source := rfl
      apply settles_attach_party found ?_ rfl ?_ rfl
      · simp [Role.Reaches, and_comm]
      -- Emptied, the payment with the slot filled is the one before.
      · rw [← unsigned_eq_unsigned_iff]
        rfl
    | _ => exact absurd fits (by simp [Role.Fits, kind])
  | serviceTarget =>
    cases tx with
    | servicePayment body =>
      have found : (servicePayment body).endorsements[1]? = some body.target := rfl
      apply settles_attach_party found ?_ rfl ?_ rfl
      · simp [Role.Reaches, and_comm]
      · rw [← unsigned_eq_unsigned_iff]
        rfl
    | _ => exact absurd fits (by simp [Role.Fits, kind])

/-- Signing hands the answer to octets that exist to the slots of the role. -/
theorem exists_settles_sign {signer : Signer σ} {state after : σ}
    {answer : Except SignerError Signed} (made : tx.roleBytes chain role = .ok bytes)
    (given : signer bytes state = (answer, after)) :
    ∃ outcome filled, Settles role tx answer outcome filled ∧
      tx.sign chain role signer state = (outcome, filled, after) := by
  -- The answer decides, since nothing else can fail any more.
  cases answer with
  | error error => exact ⟨_, _, .failed error, by simp [sign, made, given]⟩
  | ok signed =>
    refine ⟨_, _, settles_attach (fits_of_roleBytes made) signed, ?_⟩
    simp [sign, made, given]

/-- One signer is asked exactly when the octets exist, and being listed changes nothing else. -/
theorem sign_logged (name : ι) (signer : Signer σ) (state : σ) (calls : List (ι × Bytes)) :
    tx.sign chain role (signer.logged name) (state, calls) =
      ((tx.sign chain role signer state).1, (tx.sign chain role signer state).2.1,
        (tx.sign chain role signer state).2.2,
        calls ++ (tx.roleBytes chain role).toOption.toList.map (Prod.mk name)) := by
  -- The list grows only where the signer is called, which needs the octets.
  unfold sign
  cases made : tx.roleBytes chain role with
  | error error => simp [Except.toOption]
  | ok bytes =>
    simp only [Signer.logged]
    cases signer bytes state with
    | mk answer after => cases answer <;> simp [Except.toOption]

/-- Signing with one signer is an attempt with that signer. -/
theorem attempt_sign (tx : Transaction) (chain : String) (role : Role) (name : ι)
    (signer : Signer σ) (state : σ) :
    Attempt tx chain role [(name, signer)] state (tx.sign chain role signer state)
      ((tx.roleBytes chain role).toOption.toList.map (Prod.mk name)) := by
  -- Without octets nobody is asked, and with them one signer is.
  cases made : tx.roleBytes chain role with
  | error error =>
    have refused : tx.sign chain role signer state = (.error error, tx, state) := by
      simp [sign, made]
    rw [refused]
    exact .refused made
  | ok bytes =>
    cases given : signer bytes state with
    | mk answer after =>
      obtain ⟨outcome, filled, settles, ran⟩ := exists_settles_sign made given
      rw [ran]
      exact .settled made (.answered given (.inr rfl)) settles

/-- Without octets a signer in reserve makes no difference. -/
theorem signWithFallback_of_unmade {error : SigningError} (primary fallback : Signer σ) (state : σ)
    (unmade : tx.roleBytes chain role = .error error) :
    tx.signWithFallback chain role primary fallback state = (.error error, tx, state) := by
  have refused (signer : Signer σ) :
      tx.sign chain role signer state = (.error error, tx, state) := by
    simp [sign, unmade]
  -- Even an error that looks like a signer's own is only met a second time.
  cases error <;> simp [signWithFallback, refused]

/-- The signer in reserve is left alone unless the first one is unavailable. -/
theorem signWithFallback_of_available {primary fallback : Signer σ} {state after : σ}
    {answer : Except SignerError Signed} (made : tx.roleBytes chain role = .ok bytes)
    (given : primary bytes state = (answer, after)) (available : ¬ Unavailable answer) :
    tx.signWithFallback chain role primary fallback state =
      tx.sign chain role primary state := by
  obtain ⟨outcome, filled, settles, ran⟩ := exists_settles_sign made given
  rw [signWithFallback, ran]
  -- An answer that settles the transaction is final, whether a slot takes it or not.
  cases settles with
  | failed error =>
    have final : ¬ error.isRecoverable = true := mt SignerError.isRecoverable_iff.mp available
    simp [final]
  | discarded => rfl
  | attached => rfl

/-- The signer in reserve signs in place of one that is unavailable. -/
theorem signWithFallback_of_unavailable {primary fallback : Signer σ} {state between : σ}
    {answer : Except SignerError Signed} (made : tx.roleBytes chain role = .ok bytes)
    (given : primary bytes state = (answer, between)) (unavailable : Unavailable answer) :
    tx.signWithFallback chain role primary fallback state =
      tx.sign chain role fallback between := by
  obtain ⟨outcome, filled, settles, ran⟩ := exists_settles_sign made given
  rw [signWithFallback, ran]
  -- Only an error makes a signer unavailable.
  cases settles with
  | failed error => simp [SignerError.isRecoverable_iff.mpr unavailable]
  | discarded => cases unavailable
  | attached => cases unavailable

/-- Signing with a second signer in reserve is an attempt with both, and its calls are listed. -/
theorem exists_attempt_signWithFallback (tx : Transaction) (chain : String) (role : Role)
    (first second : ι) (primary fallback : Signer σ) (state : σ) :
    ∃ calls,
      tx.signWithFallback chain role (primary.logged first) (fallback.logged second) (state, []) =
        ((tx.signWithFallback chain role primary fallback state).1,
          (tx.signWithFallback chain role primary fallback state).2.1,
          (tx.signWithFallback chain role primary fallback state).2.2, calls) ∧
      Attempt tx chain role [(first, primary), (second, fallback)] state
        (tx.signWithFallback chain role primary fallback state) calls := by
  cases made : tx.roleBytes chain role with
  | error error =>
    simp only [signWithFallback_of_unmade _ _ _ made]
    exact ⟨[], rfl, .refused made⟩
  | ok bytes =>
    cases given : primary bytes state with
    | mk answer between =>
      have listed :
          primary.logged first bytes (state, []) = (answer, between, [(first, bytes)]) := by
        simp [Signer.logged, given]
      by_cases unavailable : Unavailable answer
      · -- The second signer is asked for the same octets, behind the first.
        rw [signWithFallback_of_unavailable made given unavailable,
          signWithFallback_of_unavailable made listed unavailable, sign_logged, made]
        cases taken : fallback bytes between with
        | mk other after =>
          obtain ⟨outcome, filled, settles, ran⟩ := exists_settles_sign made taken
          rw [ran]
          refine ⟨[(first, bytes), (second, bytes)], rfl, .settled made ?_ settles⟩
          exact .replaced given unavailable (.answered taken (.inr rfl))
      · rw [signWithFallback_of_available made given unavailable,
          signWithFallback_of_available made listed unavailable, sign_logged, made]
        obtain ⟨outcome, filled, settles, ran⟩ := exists_settles_sign made given
        rw [ran]
        exact ⟨[(first, bytes)], rfl, .settled made (.answered given (.inl unavailable)) settles⟩

end Transaction

/-- An attempt that fails, or whose signature no slot takes, leaves the transaction as it is. -/
theorem Attempt.unchanged {ι σ : Type} {tx : Transaction} {chain : String} {role : Role}
    {signers : List (ι × Signer σ)} {state : σ}
    {run : Except SigningError Outcome × Transaction × σ} {calls : List (ι × Bytes)}
    (attempt : Attempt tx chain role signers state run calls)
    (dropped : ∀ outcome, run.1 = .ok outcome → outcome.attached = false) : run.2.1 = tx := by
  cases attempt with
  | refused => rfl
  | settled made asked settled =>
    -- The slots change in one of three ways to settle, and there the answer says so.
    cases settled with
    | failed => rfl
    | discarded => rfl
    | attached => cases dropped _ rfl

namespace Transaction

/-- Signing with one signer, and with a second one in reserve, goes as an attempt does: a role that
does not exist for the kind is refused first, then a negative integer, and nobody is asked; else the
first signer is asked for the octets of the role, once, and the second one for the same octets
exactly if the first is unavailable. Unless the role's slots take the signature, nothing changes. -/
theorem attempt_signWithFallback {ι σ : Type} (tx : Transaction) (chain : String) (role : Role)
    (first second : ι) (primary fallback : Signer σ) (state : σ) :
    (∀ error, tx.roleBytes chain role = .error error ↔
      (¬ role.Fits tx.kind ∧ error = .roleMismatch role tx.kind) ∨
        (role.Fits tx.kind ∧ ∃ negative,
          Rlp.firstNegative (tx.preimageOf role).view.integers = some negative ∧
            error = .encode (.negativeInteger negative))) ∧
    (∃ calls,
      let run := tx.sign chain role primary state
      tx.sign chain role (primary.logged first) (state, []) = (run.1, run.2.1, run.2.2, calls) ∧
        Attempt tx chain role [(first, primary)] state run calls ∧
        ((∀ outcome, run.1 = .ok outcome → outcome.attached = false) → run.2.1 = tx)) ∧
    (∃ calls,
      let run := tx.signWithFallback chain role primary fallback state
      tx.signWithFallback chain role (primary.logged first) (fallback.logged second) (state, []) =
          (run.1, run.2.1, run.2.2, calls) ∧
        Attempt tx chain role [(first, primary), (second, fallback)] state run calls ∧
        ((∀ outcome, run.1 = .ok outcome → outcome.attached = false) → run.2.1 = tx)) := by
  refine ⟨fun error => roleBytes_eq_error_iff, ?_, ?_⟩
  -- With one signer the calls are known at once.
  · have attempt := attempt_sign tx chain role first primary state
    exact ⟨_, sign_logged first primary state [], attempt, attempt.unchanged⟩
  -- With two they depend on the first answer.
  · obtain ⟨calls, listed, attempt⟩ :=
      exists_attempt_signWithFallback tx chain role first second primary fallback state
    exact ⟨calls, listed, attempt, attempt.unchanged⟩

/-- The device of an account that pays itself is busy, and the account's own key signs as the target
in its place: both are asked for the target's octets, and of the account's two slots only the
target's is filled. -/
theorem attempt_signWithFallback_busyDevice :
    let device : Signer Unit := .constant (.error .busy)
    let reserve : Signer Unit := .constant (.ok ⟨.zero, ⟨[7]⟩⟩)
    let filled : Transaction := .servicePayment { Preimage.targetSigned with
      target := Preimage.targetSigned.target.sign ⟨[7]⟩ }
    let calls := [("device", Preimage.targetSignedOctets), ("reserve", Preimage.targetSignedOctets)]
    Preimage.targetSigned.source.address = Preimage.targetSigned.target.address ∧
      (servicePayment Preimage.targetSigned).signWithFallback "net" .serviceTarget
          (device.logged "device") (reserve.logged "reserve") ((), []) =
        (.ok ⟨.zero, true⟩, filled, (), calls) ∧
      Attempt (.servicePayment Preimage.targetSigned) "net" .serviceTarget
        [("device", device), ("reserve", reserve)] () (.ok ⟨.zero, true⟩, filled, ()) calls := by
  intro device reserve filled calls
  -- Both signers are constant, so the run can be computed.
  have ran : (servicePayment Preimage.targetSigned).signWithFallback "net" .serviceTarget
      (device.logged "device") (reserve.logged "reserve") ((), []) =
        (.ok ⟨.zero, true⟩, filled, (), calls) := by decide +kernel
  obtain ⟨-, -, asked, listed, attempt, -⟩ :=
    attempt_signWithFallback (.servicePayment Preimage.targetSigned) "net" .serviceTarget
      "device" "reserve" device reserve ()
  -- The attempt is about the run without the list, which ends in the same way.
  simp only [ran, Prod.mk.injEq] at listed
  obtain ⟨outcome, left, state, same⟩ := listed
  refine ⟨rfl, ran, ?_⟩
  rw [same, outcome, left]
  exact attempt

end Transaction

end Countersign
