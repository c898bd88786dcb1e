import Countersign.Proofs.Device.History
import Mathlib.Data.List.Nodup

/-! A caller and a worker that move in any order: whatever the order, the device carries out one
call at a time, a call is sent away exactly while an earlier one that was given up on is unfinished,
and every other result is the device's own for that very call. -/

namespace Countersign.Device

variable {δ : Type} {driver : Driver δ} {device : δ}

/-- The device never fails in the two ways that its caller could mistake for the worker's. -/
def Driver.IsPlain (driver : Driver δ) (device : δ) : Prop :=
  -- The condition is on the states that calls can bring the device into.
  ∀ calls call, (driver call (driver.after device calls)).1 ≠ .error .busy ∧
    ∀ milliseconds, (driver call (driver.after device calls)).1 ≠ .error (.timeout milliseconds)

/-- One more call is carried out by the device as the calls before it have left it. -/
theorem Driver.after_append (calls : List Call) (call : Call) :
    driver.after device (calls ++ [call]) = (driver call (driver.after device calls)).2 := by
  -- The calls are carried out from the left.
  simp [Driver.after]

/-- What the device answers has to fit what came before it. -/
def Moment.Fits (driver : Driver δ) (device : δ) (earlier : History) : Moment → Prop
  -- The device answers a call in the state that the calls before it have left.
  | .answered job answer =>
    answer = (driver job.call (driver.after device (earlier.done.map Job.call))).1
  | _ => True

/-- The answers that the worker has but has not sent. -/
def Phase.outgoing : Phase → List (Nat × Answer)
  | .answered job answer => [(job.number, answer)]
  | _ => []

/-- Whether a moment is one of the caller's: a call is made, or it returns. -/
def Moment.isOfCaller : Moment → Bool
  | .called _ => true
  | .returned _ _ => true
  | _ => false

/-- The calls that the worker has not marked although the device is through with them. -/
def Phase.unmarked : Phase → List Job
  | .answered job _ => [job]
  | .sent job => [job]
  | _ => []

namespace Exchange

/-- The jobs that the device has not answered: the one that it is at work on, then those to come. -/
def unanswered (exchange : Exchange δ) : List Job :=
  exchange.worker.phase.working ++ exchange.pending

/-- The only call that the device may still have to answer. -/
def current (exchange : Exchange δ) : Option Nat :=
  match exchange.caller with
  | .idle => exchange.worker.stalled
  | .holding job => some job.number
  | .waiting number => some number
  | .leaving number => some number

/-- What the worker and its device have done, as the past has it. -/
structure Served (driver : Driver δ) (device : δ) (worker : Worker δ) (history : History) :
    Prop where
  /-- The device has been given the calls that it has answered and the one that it is at work on. -/
  received : history.received = history.done ++ worker.phase.working
  /-- The device is as the calls that it has answered have left it. -/
  carried : worker.device = driver.after device (history.done.map Job.call)
  /-- The worker has not broken down. -/
  alive : worker.phase.isGone = false
  /-- Only what the device has answered is sent, under the number of its own call. -/
  answers : ∀ number answer, (number, answer) ∈ worker.phase.outgoing ++ worker.answers →
    ∃ job, .answered job answer ∈ history ∧ job.number = number
  /-- The marks are those that were set. -/
  finished_iff : ∀ number, number ∈ worker.finished ↔ .finished number ∈ history
  /-- Marks are set only for calls that the device has answered. -/
  finished_done : ∀ number, .finished number ∈ history → ∃ job ∈ history.done, job.number = number
  /-- A call that is still to be marked is one that the device has answered, -/
  unmarked_done : ∀ job ∈ worker.phase.unmarked, job ∈ history.done
  /-- and whatever the device has answered is marked or still to be. -/
  marked_done : ∀ job ∈ history.done,
    .finished job.number ∈ history ∨ job ∈ worker.phase.unmarked

/-- What the caller has done and knows, as the past has it. -/
structure Booked (exchange : Exchange δ) : Prop where
  /-- Calls are numbered from zero. -/
  numbered : exchange.history.calls.map Job.number = List.range exchange.worker.count
  /-- No other call than those made was sent away. -/
  refused_lt : ∀ number, exchange.history.isRefused number = true → number < exchange.worker.count
  /-- Every call was let in or sent away as it should be. -/
  judged : exchange.history.Judged
  /-- A call given up on came back because its time was up. -/
  stalled : ∀ number, exchange.worker.stalled = some number → exchange.history.TimedOut number
  /-- A call that came back because its time was up is finished, or the one given up on. -/
  timedOut : ∀ number, exchange.history.TimedOut number → .finished number ∈ exchange.history ∨
    (exchange.worker.stalled = some number ∧ exchange.caller = .idle)
  /-- What came back for no other reason is the device's answer to that very call. -/
  returned : ∀ number answer, .returned number answer ∈ exchange.history →
    answer = .error .busy ∨ (∃ milliseconds, answer = .error (.timeout milliseconds)) ∨
      ∃ job, .answered job answer ∈ exchange.history ∧ job.number = number

/-- What holds between a worker, its caller and their past after any moves. -/
structure Orderly (driver : Driver δ) (device : δ) (exchange : Exchange δ) : Prop where
  /-- The worker's side is as the past has it, -/
  served : Served driver device exchange.worker exchange.history
  /-- and so is the caller's. -/
  booked : Booked exchange
  /-- Every call that was let in has been answered by the device or will be. -/
  order : exchange.history.done ++ exchange.unanswered = exchange.history.accepted
  /-- There is one call to be answered at most, -/
  single : exchange.unanswered.length ≤ 1
  /-- and it is the one in progress, or else the one given up on. -/
  kept : ∀ job ∈ exchange.unanswered, exchange.current = some job.number
  /-- Every moment fits. -/
  fits : Always (Moment.Fits driver device) exchange.history

/-- Before any move all is in order. -/
theorem orderly_start (driver : Driver δ) (device : δ) (config : HardwareConfig) :
    Orderly driver device (start device config) where
  -- Nothing has been called, received or answered, and the caller waits for nothing.
  served := {
    received := rfl
    carried := rfl
    alive := rfl
    answers := fun number answer member => by cases member
    finished_iff := fun number => by simp [start, Worker.ofConfig]
    finished_done := fun number member => by cases member
    unmarked_done := fun job member => by cases member
    marked_done := fun job member => by cases member }
  booked := {
    numbered := rfl
    refused_lt := fun number refused => by cases refused
    judged := fun earlier job early => by simp [start] at early
    stalled := fun number given => by cases given
    timedOut := fun number late => by
      obtain ⟨milliseconds, member⟩ := late
      cases member
    returned := fun number answer member => by cases member }
  order := rfl
  single := Nat.zero_le 1
  kept job member := by cases member
  fits := Always.nil _

/-- One move, with all that it can change. -/
inductive Transition {δ : Type} (driver : Driver δ) : Exchange δ → Exchange δ → Prop
  /-- A call is sent away. -/
  | refused {worker history} (call : Call) (stalled : worker.isStalled = true) :
    Transition driver ⟨worker, .idle, history⟩ ⟨worker.counted, .idle,
      history ++ [.called (worker.job call), .returned worker.count (.error .busy)]⟩
  /-- A call is let in. -/
  | entered {worker history} (call : Call) (free : worker.isStalled = false) :
    Transition driver ⟨worker, .idle, history⟩ ⟨{ worker.counted with stalled := none },
      .holding (worker.job call), history ++ [.called (worker.job call)]⟩
  /-- A job is handed over. -/
  | submitted {worker history job} :
    Transition driver ⟨worker, .holding job, history⟩
      ⟨{ worker with queue := worker.queue ++ [job] }, .waiting job.number, history⟩
  /-- There is nobody to hand a job over to. -/
  | dropped {worker history job} (gone : worker.phase.isGone = true) :
    Transition driver ⟨worker, .holding job, history⟩
      ⟨worker, .idle, history ++ [.returned job.number (.error .disconnected)]⟩
  /-- An answer is found. -/
  | collected {worker history number answer} (found : worker.collect number = some answer) :
    Transition driver ⟨worker, .waiting number, history⟩
      ⟨worker, .idle, history ++ [.returned number answer]⟩
  /-- The time is up. -/
  | expired {worker history number} :
    Transition driver ⟨worker, .waiting number, history⟩ ⟨worker, .leaving number, history⟩
  /-- A call is given up on. -/
  | left {worker history number} :
    Transition driver ⟨worker, .leaving number, history⟩ ⟨worker.giveUp number, .idle,
      history ++ [.returned number (.error (.timeout worker.timeout))]⟩
  /-- The worker takes a job up. -/
  | took {worker caller history job rest} (idle : worker.phase = .idle)
      (first : worker.queue = job :: rest) :
    Transition driver ⟨worker, caller, history⟩
      ⟨{ worker with phase := .busy job, queue := rest }, caller, history ++ [.received job]⟩
  /-- The device is through with a call. -/
  | carriedOut {worker caller history job} (busy : worker.phase = .busy job) :
    Transition driver ⟨worker, caller, history⟩
      ⟨{ worker with
          device := (driver job.call worker.device).2
          phase := .answered job (driver job.call worker.device).1 },
        caller, history ++ [.answered job (driver job.call worker.device).1]⟩
  /-- An answer is sent. -/
  | sent {worker caller history job answer} (answered : worker.phase = .answered job answer) :
    Transition driver ⟨worker, caller, history⟩
      ⟨{ worker with phase := .sent job, answers := (job.number, answer) :: worker.answers },
        caller, history⟩
  /-- A call is marked as finished. -/
  | marked {worker caller history job} (sent : worker.phase = .sent job) :
    Transition driver ⟨worker, caller, history⟩
      ⟨{ worker with phase := .idle, finished := job.number :: worker.finished }, caller,
        history ++ [.finished job.number]⟩
  /-- The worker has nothing to do. -/
  | rested {resting : Exchange δ} : Transition driver resting resting

variable {exchange next final : Exchange δ} {worker : Worker δ} {caller : Caller}
  {history : History} {job : Job} {number : Nat} {answer : Answer}

/-- The worker's own move is one of five. -/
theorem transition_advance (driver : Driver δ) (worker : Worker δ) (caller : Caller)
    (history : History) : Transition driver ⟨worker, caller, history⟩
      ⟨worker.advance driver, caller, history ++ worker.news driver⟩ := by
  -- On the phase of the worker; only while it waits does its queue matter.
  cases phase : worker.phase with
  | idle =>
    cases queue : worker.queue with
    | nil => simpa [Worker.advance, Worker.news, phase, queue] using Transition.rested
    | cons job rest =>
      simpa [Worker.advance, Worker.news, phase, queue] using Transition.took phase queue
  | busy job => simpa [Worker.advance, Worker.news, phase] using Transition.carriedOut phase
  | answered job answer => simpa [Worker.advance, Worker.news, phase] using Transition.sent phase
  | sent job => simpa [Worker.advance, Worker.news, phase] using Transition.marked phase
  | gone => simpa [Worker.advance, Worker.news, phase] using Transition.rested

/-- A move that can be made is a transition. -/
theorem transition_of_step {move : Move} (made : exchange.step driver move = some next) :
    Transition driver exchange next := by
  -- On the move, then on where the caller is: each move can be made from one place alone.
  obtain ⟨worker, caller, history⟩ := exchange
  cases move with
  | advance =>
    cases Option.some.inj made
    exact transition_advance driver worker caller history
  | ask call =>
    cases caller with
    | idle =>
      cases stalled : worker.isStalled with
      | true =>
        have refused : worker.counted.ready? = none := if_pos stalled
        simp only [step, refused, Option.some.injEq] at made
        subst made
        exact .refused call stalled
      | false =>
        have ready : worker.counted.ready? = some { worker.counted with stalled := none } :=
          if_neg (stalled ▸ Bool.false_ne_true)
        simp only [step, ready, Option.some.injEq] at made
        subst made
        exact .entered call stalled
    | _ => cases made
  | submit =>
    cases caller with
    | holding job =>
      cases gone : worker.phase.isGone with
      | true =>
        simp only [step, Worker.submit, gone, if_true, Option.some.injEq] at made
        subst made
        exact .dropped gone
      | false =>
        simp only [step, Worker.submit, gone, Bool.false_eq_true, if_false,
          Option.some.injEq] at made
        subst made
        exact .submitted
    | _ => cases made
  | collect =>
    cases caller with
    | waiting number =>
      simp only [step, Option.map_eq_some_iff] at made
      obtain ⟨answer, found, rfl⟩ := made
      exact .collected found
    | _ => cases made
  | expire =>
    cases caller with
    | waiting number =>
      cases Option.some.inj made
      exact .expired
    | _ => cases made
  | leave =>
    cases caller with
    | leaving number =>
      cases Option.some.inj made
      exact .left
    | _ => cases made

/-- What the caller does leaves the worker's side as it was. -/
theorem Served.append (served : Served driver device worker history) (moment : Moment)
    (callers : moment.isOfCaller = true) : Served driver device worker (history ++ [moment]) := by
  -- Nothing on the worker's side speaks of calls that are made or that return.
  have notFinished (number : Nat) : .finished number ≠ moment := by
    rintro rfl
    cases callers
  have notAnswered (job : Job) (answer : Answer) : .answered job answer ≠ moment := by
    rintro rfl
    cases callers
  have received : moment.received? = none := by cases moment <;> first | rfl | cases callers
  have answered : moment.answered? = none := by cases moment <;> first | rfl | cases callers
  constructor
  case received => simpa [received, answered] using served.received
  case carried => simpa [answered] using served.carried
  case alive => exact served.alive
  case answers => simpa [notAnswered] using served.answers
  case finished_iff => simpa [notFinished] using served.finished_iff
  case finished_done => simpa [answered, notFinished] using served.finished_done
  case unmarked_done => simpa [answered] using served.unmarked_done
  case marked_done => simpa [answered, notFinished] using served.marked_done

/-- What the worker does leaves the caller's side as it was. -/
theorem Booked.append {moment : Moment} {other : Worker δ}
    (booked : Booked ⟨worker, caller, history⟩) (own : moment.isOfCaller = false)
    (count : other.count = worker.count) (stalled : other.stalled = worker.stalled) :
    Booked ⟨other, caller, history ++ [moment]⟩ := by
  have notReturned (number : Nat) (answer : Answer) : .returned number answer ≠ moment := by
    rintro rfl
    cases own
  have called : moment.called? = none := by cases moment <;> first | rfl | cases own
  have refusal (number : Nat) : moment.isRefusal number = false := by
    cases moment <;> first | rfl | cases own
  have timedOut (number : Nat) : History.TimedOut (history ++ [moment]) number ↔
      history.TimedOut number := by
    simp [(notReturned _ _).symm]
  -- A call finished now may be one that came back late; the others stay as they were.
  constructor
  case numbered => simpa [called, count] using booked.numbered
  case refused_lt => simpa [refusal, count] using booked.refused_lt
  case judged => exact booked.judged.append called refusal
  case stalled => simpa only [stalled, timedOut] using booked.stalled
  case timedOut =>
    intro number late
    rw [timedOut] at late
    rcases booked.timedOut number late with finished | given
    · exact .inl (List.mem_append_left _ finished)
    · exact .inr (stalled ▸ given)
  case returned =>
    intro number answer member
    have before : .returned number answer ∈ history := by simpa [notReturned] using member
    rcases booked.returned number answer before with busy | late | ⟨job, answered, same⟩
    · exact .inl busy
    · exact .inr (.inl late)
    · exact .inr (.inr ⟨job, List.mem_append_left _ answered, same⟩)

/-- A moment of the worker's neither makes a call nor sends one away. -/
theorem accepted_append_own {moment : Moment} (own : moment.isOfCaller = false) :
    History.accepted (history ++ [moment]) = history.accepted := by
  -- Only the caller makes calls, and only the caller is sent away.
  have called : moment.called? = none := by cases moment <;> first | rfl | cases own
  have silent (number : Nat) : History.isRefused [moment] number = false := by
    cases moment <;> first | rfl | cases own
  rw [History.accepted_append silent (by simp [called])]
  simp [called]

/-- Whatever returns without being sent away leaves the calls as they were. -/
theorem accepted_append_returned (other : answer ≠ .error .busy) :
    History.accepted (history ++ [.returned number answer]) = history.accepted := by
  -- A refusal is the answer that sends away, and this is another one.
  have silent (place : Nat) : History.isRefused [.returned number answer] place = false := by
    simp [History.isRefusal_of_ne other]
  rw [History.accepted_append silent (by simp [Moment.called?])]
  simp [Moment.called?]

namespace Orderly

/-- Calls that were let in are told apart by their numbers. -/
theorem nodup_accepted (orderly : Orderly driver device exchange) :
    (exchange.history.accepted.map Job.number).Nodup := by
  -- They are some of those made, which are numbered in order.
  have sub : (exchange.history.accepted.map Job.number).Sublist
      (exchange.history.calls.map Job.number) := List.filter_sublist.map _
  rw [orderly.booked.numbered] at sub
  exact sub.nodup List.nodup_range

/-- What the device has answered has another number than what it has not. -/
theorem number_ne_of_done (orderly : Orderly driver device exchange) {first second : Job}
    (answered : first ∈ exchange.history.done) (open_ : second ∈ exchange.unanswered) :
    first.number ≠ second.number := by
  -- Both were let in, one in front of the other.
  have distinct := orderly.nodup_accepted
  rw [← orderly.order, List.map_append] at distinct
  have apart := List.disjoint_of_nodup_append distinct
  intro same
  exact apart (List.mem_map_of_mem answered) (same ▸ List.mem_map_of_mem open_)

/-- The call given up on keeps the device exactly while one that came back late is unfinished. -/
theorem isStalled_iff (orderly : Orderly driver device exchange) :
    exchange.worker.isStalled = true ↔ exchange.history.IsStalled := by
  -- The marks of the worker are the finished calls of the past.
  rw [Worker.isStalled, Option.any_eq_true]
  constructor
  · rintro ⟨number, stalled, unmarked⟩
    have unfinished := of_decide_eq_true unmarked
    rw [orderly.served.finished_iff] at unfinished
    exact ⟨number, orderly.booked.stalled number stalled, unfinished⟩
  · rintro ⟨number, timedOut, unfinished⟩
    rcases orderly.booked.timedOut number timedOut with finished | ⟨stalled, -⟩
    · exact absurd finished unfinished
    · rw [← orderly.served.finished_iff] at unfinished
      exact ⟨number, stalled, decide_eq_true unfinished⟩

/-- Between calls, the device has nothing to answer unless a call given up on keeps it. -/
theorem unanswered_eq_nil (orderly : Orderly driver device exchange)
    (idle : exchange.caller = .idle) (free : exchange.worker.isStalled = false) :
    exchange.unanswered = [] := by
  apply List.eq_nil_iff_forall_not_mem.mpr
  intro job open_
  have stalled : exchange.worker.stalled = some job.number := by
    have kept := orderly.kept job open_
    rwa [current, idle] at kept
  -- Its mark is set, so the device has answered it.
  have marked : job.number ∈ exchange.worker.finished := by
    simpa [Worker.isStalled, stalled] using free
  obtain ⟨other, answered, same⟩ :=
    orderly.served.finished_done job.number ((orderly.served.finished_iff _).mp marked)
  exact orderly.number_ne_of_done answered open_ same

/-- A new call has a number of its own. -/
theorem not_isRefused_count (orderly : Orderly driver device exchange) :
    exchange.history.isRefused exchange.worker.count = false := by
  -- Numbers are given out in order, and only numbers given out are refused.
  cases refused : exchange.history.isRefused exchange.worker.count with
  | false => rfl
  | true => exact absurd (orderly.booked.refused_lt _ refused) (Nat.lt_irrefl _)

/-- A call that is sent away changes nothing but its own record. -/
theorem refused (orderly : Orderly driver device ⟨worker, .idle, history⟩) (call : Call)
    (stalled : worker.isStalled = true) :
    Orderly driver device ⟨worker.counted, .idle,
      history ++ [.called (worker.job call), .returned worker.count (.error .busy)]⟩ := by
  have unfinished : history.IsStalled := orderly.isStalled_iff.mp stalled
  -- The number of the new call is that of no call made before.
  have own : ∀ other ∈ history.calls, other.number ≠ (worker.job call).number := by
    intro other made
    have counted : other.number ∈ history.calls.map Job.number := List.mem_map_of_mem made
    rw [orderly.booked.numbered] at counted
    exact Nat.ne_of_lt (List.mem_range.mp counted)
  have moments : history ++ [.called (worker.job call), .returned worker.count (.error .busy)] =
      history ++ [.called (worker.job call)] ++ [.returned worker.count (.error .busy)] := by
    simp
  constructor
  case served =>
    rw [moments]
    have served := (orderly.served.append (.called (worker.job call)) rfl).append
      (.returned worker.count (.error .busy)) rfl
    exact { served with }
  case booked =>
    constructor
    case numbered =>
      have numbered := orderly.booked.numbered
      simp [Moment.called?, Worker.counted, Worker.job, List.range_succ] at numbered ⊢
      exact numbered
    case refused_lt =>
      intro number refused
      have either : history.isRefused number = true ∨ worker.count = number := by
        simpa [Moment.isRefusal] using refused
      rcases either with before | rfl
      · exact Nat.lt_succ_of_lt (orderly.booked.refused_lt number before)
      · exact Nat.lt_succ_self _
    case judged =>
      rw [moments]
      exact orderly.booked.judged.append_refused own unfinished
    case stalled => simpa [Worker.counted] using orderly.booked.stalled
    case timedOut => simpa [Worker.counted] using orderly.booked.timedOut
    case returned =>
      intro number answer member
      rcases List.mem_append.mp member with before | now
      · simpa using orderly.booked.returned number answer before
      · obtain ⟨rfl, rfl⟩ : number = worker.count ∧ answer = .error .busy := by simpa using now
        exact .inl rfl
  case order =>
    have order := orderly.order
    rw [← History.accepted_append_refusal own] at order
    have done : History.done (history ++ [.called (worker.job call),
        .returned worker.count (.error .busy)]) = history.done := by simp [Moment.answered?]
    rw [done]
    exact order
  case single => exact orderly.single
  case kept => exact orderly.kept
  case fits =>
    rw [moments]
    exact (orderly.fits.append (.called (worker.job call)) trivial).append _ trivial

/-- A call that is let in becomes the only one that the device will have to answer. -/
theorem entered (orderly : Orderly driver device ⟨worker, .idle, history⟩) (call : Call)
    (free : worker.isStalled = false) :
    Orderly driver device ⟨{ worker.counted with stalled := none }, .holding (worker.job call),
      history ++ [.called (worker.job call)]⟩ := by
  -- The call given up on, if there is one, has been found to be finished.
  have finished : ¬ history.IsStalled := by
    rw [← orderly.isStalled_iff, Bool.not_eq_true]
    exact free
  have unanswered := orderly.unanswered_eq_nil rfl free
  have accepted : History.accepted (history ++ [.called (worker.job call)]) =
      history.accepted ++ [worker.job call] := by
    refine History.accepted_append (fun number => by rfl) ?_
    intro job made
    have same : job = worker.job call := by simpa [Moment.called?] using made
    rw [same]
    exact orderly.not_isRefused_count
  have idle : worker.phase.working = [] ∧ worker.queue = [] := by
    simpa [Exchange.unanswered, Exchange.pending, Caller.held] using unanswered
  have open_ : Exchange.unanswered ⟨{ worker.counted with stalled := none },
      .holding (worker.job call), history ++ [.called (worker.job call)]⟩ =
        [worker.job call] := by
    simp [Exchange.unanswered, Exchange.pending, Worker.counted, idle, Caller.held]
  constructor
  case served =>
    have served := orderly.served.append (.called (worker.job call)) rfl
    exact { served with }
  case booked =>
    constructor
    case numbered =>
      have numbered := orderly.booked.numbered
      simp [Moment.called?, Worker.counted, Worker.job, List.range_succ] at numbered ⊢
      exact numbered
    case refused_lt =>
      intro number refused
      have before : history.isRefused number = true := by simpa [Moment.isRefusal] using refused
      exact Nat.lt_succ_of_lt (orderly.booked.refused_lt number before)
    case judged => exact orderly.booked.judged.append_entered orderly.not_isRefused_count finished
    case stalled =>
      intro number stalled
      cases stalled
    case timedOut =>
      intro number timedOut
      have late : history.TimedOut number := by simpa using timedOut
      have marked := not_not.mp fun unmarked => finished ⟨number, late, unmarked⟩
      exact .inl (List.mem_append_left _ marked)
    case returned => simpa using orderly.booked.returned
  case order =>
    have order := orderly.order
    rw [unanswered, List.append_nil] at order
    rw [open_, accepted, ← order]
    simp [Moment.answered?]
  case single => rw [open_]; exact Nat.le_refl 1
  case kept =>
    intro job member
    rw [open_] at member
    rw [List.mem_singleton.mp member]
    rfl
  case fits => exact orderly.fits.append _ trivial

/-- Handing a job over leaves it the one to be answered. -/
theorem submitted (orderly : Orderly driver device ⟨worker, .holding job, history⟩) :
    Orderly driver device
      ⟨{ worker with queue := worker.queue ++ [job] }, .waiting job.number, history⟩ := by
  have same : Exchange.unanswered ⟨{ worker with queue := worker.queue ++ [job] },
      .waiting job.number, history⟩ = Exchange.unanswered ⟨worker, .holding job, history⟩ := by
    simp [Exchange.unanswered, Exchange.pending, Caller.held]
  constructor
  case served => exact { orderly.served with }
  case booked =>
    refine { orderly.booked with timedOut := ?_ }
    intro number timedOut
    -- The caller is in a call, so it has given up on none that is unfinished.
    rcases orderly.booked.timedOut number timedOut with finished | ⟨-, idle⟩
    · exact .inl finished
    · cases idle
  case order => rw [same]; exact orderly.order
  case single => rw [same]; exact orderly.single
  case kept => rw [same]; exact orderly.kept
  case fits => exact orderly.fits

/-- The end of the caller's time changes nothing. -/
theorem expired (orderly : Orderly driver device ⟨worker, .waiting number, history⟩) :
    Orderly driver device ⟨worker, .leaving number, history⟩ := by
  -- The caller is as bound to its call as before.
  refine { orderly with booked := { orderly.booked with timedOut := ?_ } }
  intro other timedOut
  rcases orderly.booked.timedOut other timedOut with finished | ⟨-, idle⟩
  · exact .inl finished
  · cases idle

/-- What the device has answered is neither of the two failures that the worker makes. -/
theorem plain_of_answered (orderly : Orderly driver device exchange)
    (plain : driver.IsPlain device) (answered : .answered job answer ∈ exchange.history) :
    answer ≠ .error .busy ∧ ∀ milliseconds, answer ≠ .error (.timeout milliseconds) := by
  -- The answer was given in a state that some calls have led to.
  obtain ⟨earlier, -, fits⟩ := orderly.fits.of_mem answered
  rw [Moment.Fits] at fits
  rw [fits]
  exact plain _ job.call

/-- An answer that is found is the device's answer to the call of that number. -/
theorem exists_answered (orderly : Orderly driver device exchange)
    (found : exchange.worker.collect number = some answer) :
    ∃ job, .answered job answer ∈ exchange.history ∧ job.number = number := by
  rw [Worker.collect, orderly.served.alive] at found
  cases looked : exchange.worker.answers.lookup number with
  | none =>
    rw [looked] at found
    cases found
  | some sent =>
    rw [looked] at found
    cases found
    -- Whatever is looked up was sent.
    obtain ⟨before, after, split, -⟩ := List.lookup_eq_some_iff.mp looked
    apply orderly.served.answers
    rw [split]
    simp

/-- The answer that is found is the device's own, and then the device has nothing to answer. -/
theorem collected (orderly : Orderly driver device ⟨worker, .waiting number, history⟩)
    (plain : driver.IsPlain device) (found : worker.collect number = some answer) :
    Orderly driver device ⟨worker, .idle, history ++ [.returned number answer]⟩ := by
  obtain ⟨job, answered, same⟩ := orderly.exists_answered found
  obtain ⟨notBusy, notTimeout⟩ := orderly.plain_of_answered plain answered
  -- An open job would be the one in progress, whose answer has just been found.
  have unanswered : Exchange.unanswered ⟨worker, .waiting number, history⟩ = [] := by
    apply List.eq_nil_iff_forall_not_mem.mpr
    intro other open_
    have number_eq : some number = some other.number := orderly.kept other open_
    exact orderly.number_ne_of_done (History.mem_done answered) open_
      (same.trans (Option.some.inj number_eq))
  have still : Exchange.unanswered ⟨worker, .idle, history ++ [.returned number answer]⟩ = [] :=
    unanswered
  have timedOut (place : Nat) :
      History.TimedOut (history ++ [.returned number answer]) place ↔ history.TimedOut place := by
    simp [notTimeout]
  constructor
  case served => exact orderly.served.append _ rfl
  case booked =>
    constructor
    case numbered => simpa [Moment.called?] using orderly.booked.numbered
    case refused_lt => simpa [History.isRefusal_of_ne notBusy] using orderly.booked.refused_lt
    case judged =>
      exact orderly.booked.judged.append rfl fun _ => History.isRefusal_of_ne notBusy _
    case stalled =>
      intro place stalled
      exact (timedOut place).mpr (orderly.booked.stalled place stalled)
    case timedOut =>
      intro place late
      rcases orderly.booked.timedOut place ((timedOut place).mp late) with marked | ⟨-, idle⟩
      · exact .inl (List.mem_append_left _ marked)
      · cases idle
    case returned =>
      intro place other member
      rcases List.mem_append.mp member with before | now
      · simpa using orderly.booked.returned place other before
      · obtain ⟨rfl, rfl⟩ : place = number ∧ other = answer := by simpa using now
        exact .inr (.inr ⟨job, List.mem_append_left _ answered, same⟩)
  case order =>
    rw [accepted_append_returned notBusy, ← orderly.order, unanswered, still]
    simp [Moment.answered?]
  case single => rw [still]; exact Nat.zero_le 1
  case kept =>
    intro other member
    rw [still] at member
    cases member
  case fits => exact orderly.fits.append _ trivial

/-- A call that is given up on is the only one that the device may still have to answer. -/
theorem left (orderly : Orderly driver device ⟨worker, .leaving number, history⟩) :
    Orderly driver device ⟨worker.giveUp number, .idle,
      history ++ [.returned number (.error (.timeout worker.timeout))]⟩ := by
  have notBusy : (.error (.timeout worker.timeout) : Answer) ≠ .error .busy := by rintro ⟨⟩
  constructor
  case served =>
    have served := orderly.served.append
      (.returned number (.error (.timeout worker.timeout))) rfl
    exact { served with }
  case booked =>
    constructor
    case numbered => simpa [Moment.called?, Worker.giveUp] using orderly.booked.numbered
    case refused_lt =>
      simpa [History.isRefusal_of_ne notBusy, Worker.giveUp] using orderly.booked.refused_lt
    case judged =>
      exact orderly.booked.judged.append rfl fun _ => History.isRefusal_of_ne notBusy _
    case stalled =>
      intro place stalled
      obtain rfl : number = place := Option.some.inj stalled
      simp
    case timedOut =>
      intro place late
      have either : history.TimedOut place ∨ number = place := by simpa using late
      -- Of the calls whose time was up, only this one can be unfinished.
      rcases either with before | rfl
      · rcases orderly.booked.timedOut place before with marked | ⟨-, idle⟩
        · exact .inl (List.mem_append_left _ marked)
        · cases idle
      · exact .inr ⟨rfl, rfl⟩
    case returned =>
      intro place other member
      rcases List.mem_append.mp member with before | now
      · simpa using orderly.booked.returned place other before
      · obtain ⟨rfl, rfl⟩ : place = number ∧ other = .error (.timeout worker.timeout) := by
          simpa using now
        exact .inr (.inl ⟨_, rfl⟩)
  case order =>
    rw [accepted_append_returned notBusy, ← orderly.order]
    simp [Moment.answered?, Exchange.unanswered, Exchange.pending, Caller.held, Worker.giveUp]
  case single => exact orderly.single
  case kept => exact orderly.kept
  case fits => exact orderly.fits.append _ trivial

/-- What the worker does without answering a call keeps the order if it keeps the worker's side. -/
theorem own {moment : Moment} {other : Worker δ}
    (orderly : Orderly driver device ⟨worker, caller, history⟩)
    (served : Served driver device other (history ++ [moment])) (own : moment.isOfCaller = false)
    (answerless : moment.answered? = none) (count : other.count = worker.count)
    (stalled : other.stalled = worker.stalled)
    (same : Exchange.unanswered ⟨other, caller, history ++ [moment]⟩ =
      Exchange.unanswered ⟨worker, caller, history⟩) :
    Orderly driver device ⟨other, caller, history ++ [moment]⟩ where
  -- Books and order depend on what the caller has seen, which is the same.
  served := served
  booked := orderly.booked.append own count stalled
  order := by
    rw [same, accepted_append_own own, ← orderly.order]
    simp [answerless]
  single := by
    rw [same]
    exact orderly.single
  kept job member := by
    rw [same] at member
    have current : Exchange.current ⟨other, caller, history ++ [moment]⟩ =
        Exchange.current ⟨worker, caller, history⟩ := by
      cases caller with
      | idle => exact stalled
      | _ => rfl
    rw [current]
    exact orderly.kept job member
  -- The moment is no answer, so no answer has to fit.
  fits := by
    apply orderly.fits.append
    cases moment with
    | answered job answer => cases answerless
    | _ => trivial

/-- A job that is taken up reaches the device. -/
theorem took {rest : List Job} (orderly : Orderly driver device ⟨worker, caller, history⟩)
    (idle : worker.phase = .idle) (first : worker.queue = job :: rest) :
    Orderly driver device ⟨{ worker with phase := .busy job, queue := rest }, caller,
      history ++ [.received job]⟩ := by
  have same : Exchange.unanswered ⟨{ worker with phase := .busy job, queue := rest }, caller,
      history ++ [.received job]⟩ = Exchange.unanswered ⟨worker, caller, history⟩ := by
    simp [Exchange.unanswered, Exchange.pending, Phase.working, idle, first]
  -- The first job in the queue becomes the one at work, and the rest is as before.
  refine orderly.own ?_ rfl rfl rfl rfl same
  have served := orderly.served
  constructor
  case received =>
    have received : history.received = history.done := by
      simpa [idle, Phase.working] using served.received
    simp [Moment.received?, Moment.answered?, Phase.working, received]
  case carried => simpa [Moment.answered?] using served.carried
  case alive => rfl
  case answers => simpa [idle, Phase.outgoing] using served.answers
  case finished_iff => simpa using served.finished_iff
  case finished_done => simpa [Moment.answered?] using served.finished_done
  case unmarked_done =>
    intro other member
    cases member
  case marked_done => simpa [idle, Phase.unmarked, Moment.answered?] using served.marked_done

/-- What the device is through with is answered in the state that the calls before it have left. -/
theorem carriedOut (orderly : Orderly driver device ⟨worker, caller, history⟩)
    (busy : worker.phase = .busy job) :
    Orderly driver device
      ⟨{ worker with
          device := (driver job.call worker.device).2
          phase := .answered job (driver job.call worker.device).1 },
        caller, history ++ [.answered job (driver job.call worker.device).1]⟩ := by
  have before : Exchange.unanswered ⟨worker, caller, history⟩ =
      job :: Exchange.pending ⟨worker, caller, history⟩ := by
    simp [Exchange.unanswered, Phase.working, busy]
  have served := orderly.served
  have carried : worker.device = driver.after device (history.done.map Job.call) := served.carried
  -- The job leaves those to be answered and joins those that are.
  constructor
  case served =>
    constructor
    case received =>
      have received : history.received = history.done ++ [job] := by
        simpa [busy, Phase.working] using served.received
      simp [Moment.received?, Moment.answered?, Phase.working, received]
    case carried => simp [Moment.answered?, Driver.after_append, carried]
    case alive => rfl
    case answers =>
      intro number answer member
      rcases List.mem_append.mp member with now | old
      · obtain ⟨rfl, rfl⟩ : number = job.number ∧ answer = (driver job.call worker.device).1 := by
          simpa [Phase.outgoing] using now
        exact ⟨job, by simp, rfl⟩
      · obtain ⟨other, answered, same⟩ := served.answers number answer (List.mem_append_right _ old)
        exact ⟨other, List.mem_append_left _ answered, same⟩
    case finished_iff => simpa using served.finished_iff
    case finished_done =>
      intro number member
      obtain ⟨other, answered, same⟩ := served.finished_done number (by simpa using member)
      exact ⟨other, by simp [answered], same⟩
    case unmarked_done =>
      intro other member
      rw [List.mem_singleton.mp member]
      simp [Moment.answered?]
    case marked_done =>
      intro other member
      have either : other ∈ history.done ∨ other = job := by simpa [Moment.answered?] using member
      rcases either with before | rfl
      · have marked := served.marked_done other before
        simp only [busy, Phase.unmarked, List.not_mem_nil, or_false] at marked
        exact .inl (List.mem_append_left _ marked)
      · exact .inr (List.mem_singleton_self _)
  case booked => exact orderly.booked.append rfl rfl rfl
  case order =>
    rw [accepted_append_own rfl, ← orderly.order, before]
    simp [Moment.answered?, Exchange.unanswered, Exchange.pending, Phase.working]
  case single =>
    have single := orderly.single
    rw [before, List.length_cons] at single
    exact Nat.le_of_succ_le single
  case kept =>
    intro other member
    apply orderly.kept other
    rw [before]
    exact List.mem_cons_of_mem job member
  case fits =>
    apply orderly.fits.append _
    rw [Moment.Fits, carried]

/-- An answer is sent as it is. -/
theorem sent (orderly : Orderly driver device ⟨worker, caller, history⟩)
    (answered : worker.phase = .answered job answer) :
    Orderly driver device
      ⟨{ worker with phase := .sent job, answers := (job.number, answer) :: worker.answers },
        caller, history⟩ := by
  have same : Exchange.unanswered
      ⟨{ worker with phase := .sent job, answers := (job.number, answer) :: worker.answers },
        caller, history⟩ = Exchange.unanswered ⟨worker, caller, history⟩ := by
    simp [Exchange.unanswered, Exchange.pending, Phase.working, answered]
  have served := orderly.served
  constructor
  case served =>
    constructor
    case received => simpa [answered, Phase.working] using served.received
    case carried => exact served.carried
    case alive => rfl
    -- The answer goes from the worker's hands to those that are sent.
    case answers => simpa [answered, Phase.outgoing] using served.answers
    case finished_iff => exact served.finished_iff
    case finished_done => exact served.finished_done
    case unmarked_done => simpa [answered, Phase.unmarked] using served.unmarked_done
    case marked_done => simpa [answered, Phase.unmarked] using served.marked_done
  case booked => exact { orderly.booked with }
  case order => rw [same]; exact orderly.order
  case single => rw [same]; exact orderly.single
  case kept => rw [same]; exact orderly.kept
  case fits => exact orderly.fits

/-- A mark is set for a call that the device has answered. -/
theorem marked (orderly : Orderly driver device ⟨worker, caller, history⟩)
    (sent : worker.phase = .sent job) :
    Orderly driver device
      ⟨{ worker with phase := .idle, finished := job.number :: worker.finished }, caller,
        history ++ [.finished job.number]⟩ := by
  have served := orderly.served
  have done : job ∈ history.done := served.unmarked_done job (by simp [sent, Phase.unmarked])
  have same : Exchange.unanswered
      ⟨{ worker with phase := .idle, finished := job.number :: worker.finished }, caller,
        history ++ [.finished job.number]⟩ = Exchange.unanswered ⟨worker, caller, history⟩ := by
    simp [Exchange.unanswered, Exchange.pending, Phase.working, sent]
  refine orderly.own ?_ rfl rfl rfl rfl same
  constructor
  case received =>
    simpa [sent, Moment.received?, Moment.answered?, Phase.working] using served.received
  case carried => simpa [Moment.answered?] using served.carried
  case alive => rfl
  case answers => simpa [sent, Phase.outgoing] using served.answers
  case finished_iff =>
    intro number
    have before := served.finished_iff number
    simp [before, or_comm]
  case finished_done =>
    intro number member
    rcases List.mem_append.mp member with before | now
    · simpa [Moment.answered?] using served.finished_done number before
    · obtain rfl : number = job.number := by simpa using now
      exact ⟨job, by simp [done], rfl⟩
  case unmarked_done =>
    intro other member
    cases member
  case marked_done =>
    intro other member
    have either := served.marked_done other (by simpa [Moment.answered?] using member)
    -- The call that was to be marked is the one that is marked now.
    rw [sent, Phase.unmarked, List.mem_singleton] at either
    rcases either with before | rfl
    · exact .inl (List.mem_append_left _ before)
    · exact .inl (by simp)

/-- Every move keeps the order. -/
theorem transition (orderly : Orderly driver device exchange) (plain : driver.IsPlain device)
    (moved : Transition driver exchange next) : Orderly driver device next := by
  -- One lemma for each transition.
  cases moved with
  | refused call stalled => exact orderly.refused call stalled
  | entered call free => exact orderly.entered call free
  | submitted => exact orderly.submitted
  | dropped gone => exact absurd gone (Bool.eq_false_iff.mp orderly.served.alive)
  | collected found => exact orderly.collected plain found
  | expired => exact orderly.expired
  | left => exact orderly.left
  | took idle first => exact orderly.took idle first
  | carriedOut busy => exact orderly.carriedOut busy
  | sent answered => exact orderly.sent answered
  | marked sent => exact orderly.marked sent
  | rested => exact orderly

/-- Every run keeps the order. -/
theorem run (orderly : Orderly driver device exchange) (plain : driver.IsPlain device)
    {moves : List Move} (ran : exchange.run driver moves = some final) :
    Orderly driver device final := by
  -- On the moves: what the first one leads to is in order, and the others start from there.
  induction moves generalizing exchange with
  | nil =>
    cases Option.some.inj ran
    exact orderly
  | cons move rest ih =>
    rw [Exchange.run, Option.bind_eq_some_iff] at ran
    obtain ⟨next, made, later⟩ := ran
    exact ih (orderly.transition plain (transition_of_step made)) later

end Orderly

end Exchange

end Countersign.Device
