import Countersign.Proofs.Signing.Attempts
import Countersign.Proofs.Signing.Endorsers

/-! Endorsers that take turns, whatever they answer: all of them are asked for the octets of the
transaction before the first turn, and a failed turn leaves what those before it have attached. -/

namespace Countersign.Transaction

variable {ι σ : Type} {tx filled : Transaction} {chain : String}

/-- Endorsers under names take turns: what is returned, and the calls that are made. -/
structure Turns (tx : Transaction) (chain : String) (signers : List (ι × Signer σ)) (state : σ)
    (run : Except SigningError (List Outcome) × Transaction × σ) (calls : List (ι × Bytes)) :
    Prop where
  /-- The signers that are called are called once each, in their order, without leaving one out. -/
  order : calls.map Prod.fst <+: signers.map Prod.fst
  /-- All of them are called for the octets that endorsers sign of the transaction. -/
  octets : ∀ call ∈ calls, tx.signBytes chain = .ok call.2
  /-- Without an error everybody is called, and each has an outcome. -/
  complete : ∀ outcomes, run.1 = .ok outcomes →
    calls.length = signers.length ∧ outcomes.length = signers.length
  /-- An error is that of one turn. It leaves the transaction as the turns before it do, and nobody
  behind it is called; it is called itself, unless the octets are missing and nobody is. -/
  interrupted : ∀ error, run.1 = .error error → ∃ before name signer behind outcomes between,
    signers = before ++ (name, signer) :: behind ∧
      tx.signAll chain state (before.map Prod.snd) = (.ok outcomes, run.2.1, between) ∧
      run.2.1.sign chain .endorser signer between = (.error error, run.2.1, run.2.2) ∧
      (calls.length = before.length + 1 ∨
        before = [] ∧ calls = [] ∧ tx.roleBytes chain .endorser = .error error)

/-- The first turn succeeds, and the others take place on what it has left. -/
theorem signAll_of_ok {signer : Signer σ} {state after : σ} {outcome : Outcome}
    (signed : tx.sign chain .endorser signer state = (.ok outcome, filled, after))
    (rest : List (Signer σ)) :
    tx.signAll chain state (signer :: rest) =
      ((filled.signAll chain after rest).1.map (outcome :: ·),
        (filled.signAll chain after rest).2.1, (filled.signAll chain after rest).2.2) := by
  -- What the first turn leaves is where the second one begins.
  rw [signAll, signed]

/-- The first turn fails, and there is no other. -/
theorem signAll_of_error {signer : Signer σ} {state after : σ} {error : SigningError}
    (failed : tx.sign chain .endorser signer state = (.error error, filled, after))
    (rest : List (Signer σ)) :
    tx.signAll chain state (signer :: rest) = (.error error, filled, after) := by
  -- The answers so far are dropped with the turns that are left.
  rw [signAll, failed]

/-- Without signers there are no turns. -/
theorem turns_nil {state : σ} :
    Turns tx chain ([] : List (ι × Signer σ)) state (.ok [], tx, state) [] where
  -- All four parts are about turns, of which there are none.
  order := by simp
  octets := by simp
  complete := by simp
  interrupted := by simp

/-- What endorsers are asked for does not depend on the slots. -/
theorem roleBytes_of_unsigned_eq {bytes : Bytes} (emptied : filled.unsigned = tx.unsigned)
    (made : tx.roleBytes chain .endorser = .ok bytes) :
    filled.roleBytes chain .endorser = .ok bytes := by
  -- The octets are the general ones, which are made of the emptied transaction.
  obtain ⟨notPayment, general⟩ := signBytes_of_roleBytes made
  apply roleBytes_endorser
  · rwa [← kind_unsigned, emptied, kind_unsigned]
  · rwa [signBytes, emptied, ← signBytes]

/-- A turn that succeeds may precede turns on what it has left. -/
theorem Turns.cons {name : ι} {signer : Signer σ} {rest : List (ι × Signer σ)} {state after : σ}
    {outcome : Outcome} {bytes : Bytes} {calls : List (ι × Bytes)}
    {run : Except SigningError (List Outcome) × Transaction × σ}
    (made : tx.roleBytes chain .endorser = .ok bytes)
    (signed : tx.sign chain .endorser signer state = (.ok outcome, filled, after))
    (turns : Turns filled chain rest after run calls) :
    Turns tx chain ((name, signer) :: rest) state (run.1.map (outcome :: ·), run.2)
      ((name, bytes) :: calls) := by
  have emptied : filled.unsigned = tx.unsigned := by
    have kept := unsigned_sign tx chain .endorser signer state
    rwa [signed] at kept
  refine ⟨?_, ?_, ?_, ?_⟩
  · simpa using turns.order
  · intro call member
    rcases List.mem_cons.mp member with rfl | later
    · exact (signBytes_of_roleBytes made).2
    · have same := turns.octets call later
      rwa [signBytes, emptied, ← signBytes] at same
  · intro outcomes succeeded
    obtain ⟨others, whole, rfl⟩ := map_eq_ok_iff.mp succeeded
    obtain ⟨called, listed⟩ := turns.complete others whole
    simp [called, listed]
  · intro error failed
    obtain ⟨before, next, last, behind, outcomes, between, rfl, former, ended, called⟩ :=
      turns.interrupted error (map_eq_error_iff.mp failed)
    refine ⟨(name, signer) :: before, next, last, behind, outcome :: outcomes, between, rfl, ?_,
      ended, .inl ?_⟩
    · simp only [List.map_cons, signAll_of_ok signed, former]
      rfl
    · -- The octets were there for the turn before, so that they are not missing now.
      rcases called with called | ⟨rfl, rfl, missing⟩
      · simp [called]
      · rw [roleBytes_of_unsigned_eq emptied made] at missing
        cases missing

/-- A turn that fails is the only one, and has called its signer if the octets were there. -/
theorem turns_of_error {name : ι} {signer : Signer σ} {state after : σ} {error : SigningError}
    (failed : tx.sign chain .endorser signer state = (.error error, tx, after))
    (rest : List (ι × Signer σ)) :
    Turns tx chain ((name, signer) :: rest) state (.error error, tx, after)
      ((tx.roleBytes chain .endorser).toOption.toList.map (Prod.mk name)) := by
  -- The octets decide whether the signer has been called before the failure.
  cases made : tx.roleBytes chain .endorser with
  | error cause =>
    have same : cause = error := by
      simp only [sign, made, Prod.mk.injEq, Except.error.injEq] at failed
      exact failed.1
    subst same
    refine ⟨by simp [Except.toOption], by simp [Except.toOption], by simp, ?_⟩
    intro error same
    cases same
    -- No turn was complete, and no call was made.
    exact ⟨[], name, signer, rest, [], state, rfl, rfl, failed, .inr ⟨rfl, rfl, made⟩⟩
  | ok bytes =>
    have general := (signBytes_of_roleBytes made).2
    refine ⟨by simp [Except.toOption], by simpa [Except.toOption] using general, by simp, ?_⟩
    intro error same
    cases same
    -- No turn was complete, but the signer was called for the general octets.
    exact ⟨[], name, signer, rest, [], state, rfl, rfl, failed, .inl rfl⟩

/-- Endorsers take turns as described, and listing the calls changes nothing. -/
theorem exists_turns_signAll (tx : Transaction) (chain : String) (signers : List (ι × Signer σ))
    (state : σ) (log : List (ι × Bytes)) :
    ∃ calls,
      tx.signAll chain (state, log) (signers.map fun named => named.2.logged named.1) =
        ((tx.signAll chain state (signers.map Prod.snd)).1,
          (tx.signAll chain state (signers.map Prod.snd)).2.1,
          (tx.signAll chain state (signers.map Prod.snd)).2.2, log ++ calls) ∧
      Turns tx chain signers state (tx.signAll chain state (signers.map Prod.snd)) calls := by
  -- A turn changes nothing but slots, so the octets of the next one are the same.
  induction signers generalizing tx state log with
  | nil => exact ⟨[], by simp [signAll], turns_nil⟩
  | cons named rest ih =>
    obtain ⟨name, signer⟩ := named
    cases ran : tx.sign chain .endorser signer state with
    | mk verdict left =>
      obtain ⟨filled, after⟩ := left
      have listed : tx.sign chain .endorser (signer.logged name) (state, log) =
          (verdict, filled, after,
            log ++ (tx.roleBytes chain .endorser).toOption.toList.map (Prod.mk name)) := by
        rw [sign_logged, ran]
      simp only [List.map_cons]
      cases verdict with
      | error error =>
        have untouched : filled = tx := by
          have kept := (attempt_sign tx chain .endorser name signer state).unchanged
          rw [ran] at kept
          exact kept (by simp)
        subst untouched
        rw [signAll_of_error ran, signAll_of_error listed]
        exact ⟨_, rfl, turns_of_error ran rest⟩
      | ok outcome =>
        obtain ⟨bytes, -, made, -⟩ := sign_eq_ok_iff.mp ran
        obtain ⟨calls, others, turns⟩ := ih filled after (log ++ [(name, bytes)])
        rw [made] at listed
        rw [signAll_of_ok ran, signAll_of_ok listed]
        refine ⟨(name, bytes) :: calls, ?_, turns.cons made ran⟩
        simp only [Except.toOption, Option.toList, List.map_cons, List.map_nil, others]
        simp

/-- A payment has no endorsers, and is handed back without calling any. -/
theorem signAll_payment (body : ServicePayment) {signers : List (Signer σ)} (someone : signers ≠ [])
    (state : σ) :
    (servicePayment body).signAll chain state signers =
      (.error (.roleMismatch .endorser .servicePayment), servicePayment body, state) := by
  -- The role is refused at the first turn.
  cases signers with
  | nil => exact absurd rfl someone
  | cons signer rest => exact signAll_of_error rfl rest

/-- Endorsers take turns as described. A payment has none: whoever is first is refused without being
called, and nothing changes. Without signers there are no turns, whether or not the transaction can
be written. -/
theorem signAll_turns (tx : Transaction) (chain : String) (signers : List (ι × Signer σ))
    (state : σ) :
    ∃ calls,
      let run := tx.signAll chain state (signers.map Prod.snd)
      tx.signAll chain (state, []) (signers.map fun named => named.2.logged named.1) =
          (run.1, run.2.1, run.2.2, calls) ∧
        Turns tx chain signers state run calls ∧
        (tx.kind = .servicePayment → signers ≠ [] →
          run = (.error (.roleMismatch .endorser .servicePayment), tx, state) ∧ calls = []) ∧
        (signers = [] → run = (.ok [], tx, state) ∧ calls = []) := by
  obtain ⟨calls, listed, turns⟩ := exists_turns_signAll tx chain signers state []
  refine ⟨calls, listed, turns, ?_, ?_⟩
  · intro payment someone
    cases tx with
    | servicePayment body =>
      -- The list of calls is part of the state, and as such left as it was.
      rw [signAll_payment body (by simpa using someone),
        signAll_payment body (by simpa using someone)] at listed
      simp only [List.nil_append, Prod.mk.injEq, true_and] at listed
      exact ⟨signAll_payment body (by simpa using someone) state, listed.symm⟩
    | _ => cases payment
  · intro nobody
    subst nobody
    simp only [List.map_nil, signAll, List.nil_append, Prod.mk.injEq, true_and] at listed
    exact ⟨rfl, listed.symm⟩

/-- A transfer of one account, with what is in its slot. -/
def oneSlot (signature : Signature) : Transaction :=
  .transfer { fee := ⟨1, 0⟩, endorsements := [⟨.zero, ⟨2, 0⟩, 3, signature⟩], payouts := [] }

/-- The octets that its account signs under the chain `net`. -/
def oneSlotOctets : Bytes :=
  [0xF8, 0x40, 0x80, 0x80, 0x80, 0x94] ++ Bytes.zeros 20 ++
    [0x80, 0xA6, 0x83, 0x6E, 0x65, 0x74, 0x02, 0xE0, 0xC2, 0x01, 0x80, 0xDB, 0xDA, 0x94] ++
    Bytes.zeros 20 ++ [0xC2, 0x02, 0x80, 0x03, 0x80, 0xC0]

/-- The account has signed when a device refuses to. Its signature stays, the next turn does not
take place, and both have been called for the octets of the empty slot; a payment calls neither. -/
theorem signAll_turns_rejection :
    let owner : Signer Unit := .constant (.ok ⟨.zero, ⟨[7]⟩⟩)
    let device : Signer Unit := .constant (.error .rejected)
    let signers := [("owner", owner), ("device", device), ("reserve", owner)]
    let run := (.error (.signer .rejected), oneSlot ⟨[7]⟩, ())
    let payment := servicePayment Preimage.targetSigned
    (oneSlot .empty).signAll "net" () (signers.map Prod.snd) = run ∧
      Turns (oneSlot .empty) "net" signers () run
        [("owner", oneSlotOctets), ("device", oneSlotOctets)] ∧
      payment.kind = .servicePayment ∧ signers ≠ [] ∧
      payment.signAll "net" () (signers.map Prod.snd) =
        (.error (.roleMismatch .endorser .servicePayment), payment, ()) ∧
      payment.signAll "net" () [] = (.ok [], payment, ()) := by
  intro owner device signers run payment
  -- The run is computed with the calls in its state.
  have ran : (oneSlot .empty).signAll "net" ((), [])
      (signers.map fun named => named.2.logged named.1) =
        (run.1, run.2.1, run.2.2, [("owner", oneSlotOctets), ("device", oneSlotOctets)]) := by
    decide +kernel
  obtain ⟨calls, listed, turns, -⟩ := signAll_turns (oneSlot .empty) "net" signers ()
  obtain ⟨_, _, _, refused, _⟩ := signAll_turns payment "net" signers ()
  obtain ⟨_, _, _, _, quiet⟩ := signAll_turns payment "net" ([] : List (String × Signer Unit)) ()
  simp only [ran, Prod.mk.injEq] at listed
  obtain ⟨outcome, left, state, same⟩ := listed
  -- Without the list the run ends in the same way.
  have whole : (oneSlot .empty).signAll "net" () (signers.map Prod.snd) = run :=
    Prod.ext outcome.symm (Prod.ext left.symm rfl)
  rw [whole, ← same] at turns
  exact ⟨whole, turns, rfl, by simp [signers], (refused rfl (by simp [signers])).1, (quiet rfl).1⟩

end Countersign.Transaction
