import Countersign.Device.Exchange
import Countersign.Proofs.Past

/-! What has happened between a caller and a worker: how one more moment changes the calls made,
received, answered and sent away, and which calls ought to be sent away. -/

namespace Countersign.Device

namespace History

variable {history news : History} {number : Nat}

/-- The calls of two stretches of time are those of the first and then those of the second. -/
@[simp] theorem calls_append (first second : History) :
    calls (first ++ second) = calls first ++ calls second := List.filterMap_append

/-- At first no call has been made. -/
@[simp] theorem calls_nil : calls [] = [] := rfl

/-- A moment in front adds its call, if it is one. -/
@[simp] theorem calls_cons (moment : Moment) (rest : History) :
    calls (moment :: rest) = moment.called?.toList ++ calls rest := by
  -- On whether it is one.
  cases called : moment.called? <;> simp [calls, called]

/-- What the device has received in two stretches of time is what it received in each, in order. -/
@[simp] theorem received_append (first second : History) :
    received (first ++ second) = received first ++ received second := List.filterMap_append

/-- At first the device has received nothing. -/
@[simp] theorem received_nil : received [] = [] := rfl

/-- A moment in front adds the call that arrived in it. -/
@[simp] theorem received_cons (moment : Moment) (rest : History) :
    received (moment :: rest) = moment.received?.toList ++ received rest := by
  -- On whether one arrived.
  cases arrived : moment.received? <;> simp [received, arrived]

/-- What the device is through with after two stretches of time is what it answered in each, in
order. -/
@[simp] theorem done_append (first second : History) :
    done (first ++ second) = done first ++ done second := List.filterMap_append

/-- At first the device is through with nothing. -/
@[simp] theorem done_nil : done [] = [] := rfl

/-- A moment in front adds the call that was answered in it. -/
@[simp] theorem done_cons (moment : Moment) (rest : History) :
    done (moment :: rest) = moment.answered?.toList ++ done rest := by
  -- On whether one was.
  cases answered : moment.answered? <;> simp [done, answered]

/-- A call was sent away in one of two stretches if it was in either. -/
@[simp] theorem isRefused_append (first second : History) (number : Nat) :
    isRefused (first ++ second) number = (isRefused first number || isRefused second number) :=
  List.any_append

/-- At first no call has been sent away. -/
@[simp] theorem isRefused_nil (number : Nat) : isRefused [] number = false := rfl

/-- A call was sent away in the first moment or later. -/
@[simp] theorem isRefused_cons (moment : Moment) (rest : History) (number : Nat) :
    isRefused (moment :: rest) number = (moment.isRefusal number || isRefused rest number) := rfl

/-- A call took too long in one of two stretches if it did in either. -/
@[simp] theorem timedOut_append (first second : History) (number : Nat) :
    TimedOut (first ++ second) number ↔ TimedOut first number ∨ TimedOut second number := by
  -- The moment in which that was noticed is in one of them.
  simp [TimedOut, exists_or]

/-- At first no call has taken too long. -/
@[simp] theorem not_timedOut_nil (number : Nat) : ¬ TimedOut [] number := by
  -- There is no moment in which that could have been noticed.
  simp [TimedOut]

/-- That a call took too long was noticed in the first moment or later. -/
@[simp] theorem timedOut_cons (moment : Moment) (rest : History) (number : Nat) :
    TimedOut (moment :: rest) number ↔
      (∃ milliseconds, moment = .returned number (.error (.timeout milliseconds))) ∨
        TimedOut rest number := by
  -- A moment of the whole is the first one or one of the others.
  simp [TimedOut, exists_or, eq_comm]

/-- What the device was through with is listed. -/
theorem mem_done {job : Job} {answer : Answer} (member : .answered job answer ∈ history) :
    job ∈ history.done :=
  -- The list is made from just these moments.
  List.mem_filterMap.mpr ⟨_, member, rfl⟩

/-- A call that was let in was made. -/
theorem mem_calls_of_mem_accepted {job : Job} (member : job ∈ history.accepted) :
    job ∈ history.calls :=
  -- Calls that were let in are picked from all calls.
  (List.mem_filter.mp member).1

/-- A call was sent away exactly when it returned for that reason. -/
theorem isRefused_eq_true_iff :
    history.isRefused number = true ↔ .returned number (.error .busy) ∈ history := by
  -- One shape of moment alone is a refusal, and it bears the number.
  rw [isRefused, List.any_eq_true]
  constructor
  · rintro ⟨moment, member, refusal⟩
    unfold Moment.isRefusal at refusal
    split at refusal
    · rw [← eq_of_beq refusal]
      exact member
    · cases refusal
  · intro member
    exact ⟨_, member, beq_self_eq_true number⟩

/-- A call that returns for another reason is not sent away. -/
theorem isRefusal_of_ne {answer : Answer} (other : answer ≠ .error .busy) (returned : Nat) :
    Moment.isRefusal number (.returned returned answer) = false := by
  -- The shape of a refusal is the one that is excluded.
  unfold Moment.isRefusal
  split
  · rename_i same
    cases same
    exact absurd rfl other
  · rfl

/-- Moments that send no call away add the calls that they make to those let in. -/
theorem accepted_append (silent : ∀ number, news.isRefused number = false)
    (fresh : ∀ job ∈ news.calls, history.isRefused job.number = false) :
    accepted (history ++ news) = accepted history ++ news.calls := by
  -- No call is struck out, whether old or new.
  have kept : news.calls.filter (fun job => !history.isRefused job.number) = news.calls :=
    List.filter_eq_self.mpr fun job made => by simp [fresh job made]
  simp [accepted, silent, kept]

/-- A call that is made and sent away is not among those let in, and changes none of them. -/
theorem accepted_append_refusal {job : Job}
    (own : ∀ other ∈ history.calls, other.number ≠ job.number) :
    accepted (history ++ [.called job, .returned job.number (.error .busy)]) =
      accepted history := by
  -- The refusal bears the new call's number, which no other call has.
  have others : history.calls.filter (fun other => !(isRefused (history ++
      [.called job, .returned job.number (.error .busy)]) other.number)) = accepted history := by
    apply List.filter_congr
    intro other made
    have apart : (job.number == other.number) = false := beq_false_of_ne (own other made).symm
    simp [Moment.isRefusal, apart]
  rw [accepted, calls_append, List.filter_append, others]
  simp [Moment.called?, Moment.isRefusal]

/-- A call is sent away exactly if, when it was made, one that had come back late was unfinished. -/
def Judged (history : History) : Prop :=
  ∀ (earlier : History) (job : Job), earlier ++ [.called job] <+: history →
    (history.isRefused job.number = true ↔ earlier.IsStalled)

/-- Moments that neither make a call nor send one away change no judgement. -/
theorem Judged.append {moment : Moment} (judged : Judged history) (called : moment.called? = none)
    (silent : ∀ number, moment.isRefusal number = false) : Judged (history ++ [moment]) := by
  intro earlier job early
  -- The call to be judged is not the new moment, so it was made before.
  rcases List.prefix_concat_iff.mp early with same | before
  · obtain ⟨-, last⟩ := List.append_inj' same rfl
    cases last
    cases called
  · rw [isRefused_append, isRefused_cons, silent, isRefused_nil, Bool.or_false, Bool.or_false]
    exact judged earlier job before

/-- A call that is let in while none is unfinished is judged rightly. -/
theorem Judged.append_entered {job : Job} (judged : Judged history)
    (fresh : history.isRefused job.number = false) (free : ¬ history.IsStalled) :
    Judged (history ++ [.called job]) := by
  intro earlier other early
  have silent : isRefused (history ++ [.called job]) other.number =
      history.isRefused other.number := by simp [Moment.isRefusal]
  -- The new call is judged by the history that it was made in.
  rw [silent]
  rcases List.prefix_concat_iff.mp early with same | before
  · obtain ⟨rfl, last⟩ := List.append_inj' same rfl
    cases last
    simp [fresh, free]
  · exact judged earlier other before

/-- A call that is sent away while one is unfinished is judged rightly. -/
theorem Judged.append_refused {job : Job} (judged : Judged history)
    (own : ∀ other ∈ history.calls, other.number ≠ job.number) (stalled : history.IsStalled) :
    Judged (history ++ [.called job] ++ [.returned job.number (.error .busy)]) := by
  intro earlier other early
  -- The refusal itself makes no call, so it is the call in front of it or an old one.
  rcases List.prefix_concat_iff.mp early with same | before
  · obtain ⟨-, last⟩ := List.append_inj' same rfl
    cases last
  rcases List.prefix_concat_iff.mp before with same | old
  · obtain ⟨rfl, last⟩ := List.append_inj' same rfl
    cases last
    simp [Moment.isRefusal, stalled]
  · have made : other ∈ history.calls :=
      List.mem_filterMap.mpr ⟨.called other, old.subset (by simp), rfl⟩
    have apart : (job.number == other.number) = false := beq_false_of_ne (own other made).symm
    have same : isRefused (history ++ [.called job] ++ [.returned job.number (.error .busy)])
        other.number = history.isRefused other.number := by simp [Moment.isRefusal, apart]
    rw [same]
    exact judged earlier other old

end History

end Countersign.Device
