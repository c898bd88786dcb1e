import Countersign.Proofs.Device.Exchange
import Countersign.Proofs.Device.Scripted

/-! What a caller can rely on, however long the calls to its device take. -/

namespace Countersign.Device

variable {δ : Type} {driver : Driver δ} {device : δ}

namespace Exchange

variable {exchange final : Exchange δ} {worker : Worker δ} {caller : Caller} {history : History}
  {job : Job}

/-- A job has the number of the calls before it. -/
@[simp] theorem job_number (worker : Worker δ) (call : Call) :
    (worker.job call).number = worker.count := rfl

/-- A job is for its call. -/
@[simp] theorem job_call (worker : Worker δ) (call : Call) : (worker.job call).call = call := rfl

/-- Moves in two parts are made one part after the other. -/
theorem run_append (exchange : Exchange δ) (first second : List Move) :
    exchange.run driver (first ++ second) =
      (exchange.run driver first).bind fun next => next.run driver second := by
  -- On the first moves; if one of them cannot be made, neither run gets anywhere.
  induction first generalizing exchange with
  | nil => rfl
  | cons move rest ih =>
    cases made : exchange.step driver move with
    | none => simp [run, made]
    | some next => simp [run, made, ih]

/-- Steps of the worker's own are always possible. -/
theorem exists_run_advance (driver : Driver δ) (count : Nat) (worker : Worker δ) (caller : Caller)
    (history : History) : ∃ news,
      run driver ⟨worker, caller, history⟩ (List.replicate count .advance) =
        some ⟨worker.advanceBy driver count, caller, history ++ news⟩ := by
  -- On the count: what the first step notes stands before the news of the others.
  induction count generalizing worker history with
  | zero => exact ⟨[], by simp [run, Worker.advanceBy]⟩
  | succ count ih =>
    obtain ⟨news, ran⟩ := ih (worker.advance driver) (history ++ worker.news driver)
    refine ⟨worker.news driver ++ news, ?_⟩
    rw [List.append_assoc] at ran
    exact ran

/-- A call that goes in a given way is a run in which it returns what it answers. -/
theorem exists_run_call (driver : Driver δ) (worker : Worker δ) (history : History) (call : Call)
    (course : Course) (survives : course ≠ .fatal) : ∃ moves past,
      run driver ⟨worker, .idle, history⟩ (.ask call :: moves) =
        some ⟨(worker.call driver call course).2, .idle,
          past ++ [.returned worker.count (worker.call driver call course).1]⟩ := by
  -- On whether the call is let in, then on whether there is a worker to hand it over to.
  cases ready : worker.counted.ready? with
  | none =>
    refine ⟨[], history ++ [.called (worker.job call)], ?_⟩
    simp [run, step, Worker.call, ready]
  | some free =>
    cases handed : free.submit (worker.job call) with
    | none =>
      refine ⟨[.submit], history ++ [.called (worker.job call)], ?_⟩
      simp [run, step, Worker.call, ready, handed]
    | some waiting =>
      obtain ⟨steps, follows⟩ : ∃ steps,
          waiting.follow driver course = waiting.advanceBy driver steps := by
        cases course with
        | prompt => exact ⟨4, rfl⟩
        | late => exact ⟨1, rfl⟩
        | fatal => exact absurd rfl survives
      obtain ⟨news, ran⟩ := exists_run_advance driver steps waiting (.waiting worker.count)
        (history ++ [.called (worker.job call)])
      -- Once the worker has stopped, the answer is there or the time is up.
      cases found : (waiting.advanceBy driver steps).collect worker.count with
      | some answer =>
        refine ⟨.submit :: (List.replicate steps .advance ++ [.collect]),
          history ++ [.called (worker.job call)] ++ news, ?_⟩
        simp [run, step, run_append, ready, handed, Worker.call, follows, found, ran]
      | none =>
        refine ⟨.submit :: (List.replicate steps .advance ++ [.expire, .leave]),
          history ++ [.called (worker.job call)] ++ news, ?_⟩
        simp [run, step, run_append, ready, handed, Worker.call, follows, found, ran]

/-- A worker that is not at work gets back to waiting by steps of its own. -/
theorem exists_advanceBy_idle (driver : Driver δ) (alive : worker.phase.isGone = false)
    (through : worker.phase.working = []) : ∃ count,
      (worker.advanceBy driver count).phase = .idle ∧
      (worker.advanceBy driver count).queue = worker.queue ∧
      (worker.advanceBy driver count).device = worker.device := by
  -- An answer is still to be sent and marked, or only to be marked.
  cases phase : worker.phase with
  | idle => exact ⟨0, phase, rfl, rfl⟩
  | busy job =>
    rw [phase] at through
    cases through
  | answered job answer => exact ⟨2, by simp [Worker.advanceBy, Worker.advance, phase]⟩
  | sent job => exact ⟨1, by simp [Worker.advanceBy, Worker.advance, phase]⟩
  | gone =>
    rw [phase] at alive
    cases alive

/-- The only job of a waiting worker is carried out and answered. -/
theorem run_serve (driver : Driver δ) (history : History) (idle : worker.phase = .idle)
    (only : worker.queue = [job]) :
    run driver ⟨worker, .waiting job.number, history⟩ [.advance, .advance, .advance, .collect] =
      some ⟨worker.advanceBy driver 3, .idle, history ++ [.received job,
        .answered job (driver job.call worker.device).1,
        .returned job.number (driver job.call worker.device).1]⟩ := by
  -- The worker takes the job up, carries it out and sends the answer, and then the caller finds it.
  simp [run, step, Worker.advanceBy, Worker.advance, Worker.news, Worker.collect, idle, only]

/-- A call that is made while no earlier one is unfinished is let in. -/
theorem step_ask_free (driver : Driver δ) (worker : Worker δ) (history : History) (call : Call)
    (free : worker.isStalled = false) : step driver ⟨worker, .idle, history⟩ (.ask call) =
      some ⟨{ worker.counted with stalled := none }, .holding (worker.job call),
        history ++ [.called (worker.job call)]⟩ := by
  -- Whatever was given up on before has finished, and is forgotten.
  have ready : worker.counted.ready? = some { worker.counted with stalled := none } :=
    if_neg (free ▸ Bool.false_ne_true)
  simp only [step, ready]

/-- A worker that has not broken down takes a job. -/
theorem step_submit (driver : Driver δ) (worker : Worker δ) (history : History) (job : Job)
    (alive : worker.phase.isGone = false) :
    step driver ⟨worker, .holding job, history⟩ .submit =
      some ⟨{ worker with queue := worker.queue ++ [job] }, .waiting job.number, history⟩ := by
  -- Only a worker that is gone refuses a job.
  simp [step, Worker.submit, alive]

/-- While no call is unfinished, the next one can reach the device and return its answer. -/
theorem exists_run_next (orderly : Orderly driver device exchange)
    (idle : exchange.caller = .idle) (free : ¬ exchange.history.IsStalled) (call : Call) :
    ∃ moves after, exchange.run driver (.ask call :: moves) = some after ∧
      .received (exchange.worker.job call) ∈ after.history ∧
      .returned exchange.worker.count
        (driver call (driver.after device (exchange.history.received.map Job.call))).1 ∈
          after.history := by
  obtain ⟨worker, caller, history⟩ := exchange
  cases idle
  have unstalled : worker.isStalled = false := by
    rw [← Bool.not_eq_true, orderly.isStalled_iff]
    exact free
  have through : worker.phase.working = [] ∧ worker.queue = [] := by
    simpa [unanswered, pending, Caller.held] using orderly.unanswered_eq_nil rfl unstalled
  have alive : worker.phase.isGone = false := orderly.served.alive
  have received : history.received = history.done := by
    simpa [through] using orderly.served.received
  have carried : worker.device = driver.after device (history.received.map Job.call) := by
    rw [received]
    exact orderly.served.carried
  -- The call is let in and handed over, the worker gets back to waiting, and takes it up.
  let open_ : Worker δ := { worker.counted with stalled := none }
  let waiting : Worker δ := { open_ with queue := open_.queue ++ [worker.job call] }
  have entered : run driver ⟨worker, .idle, history⟩ [.ask call, .submit] =
      some ⟨waiting, .waiting worker.count, history ++ [.called (worker.job call)]⟩ := by
    rw [run, step_ask_free driver worker history call unstalled, Option.bind_some, run,
      step_submit driver open_ _ _ alive]
    rfl
  obtain ⟨count, phase, queue, same⟩ : ∃ count,
      (waiting.advanceBy driver count).phase = .idle ∧
      (waiting.advanceBy driver count).queue = waiting.queue ∧
      (waiting.advanceBy driver count).device = worker.device :=
    exists_advanceBy_idle driver alive through.1
  have only : (waiting.advanceBy driver count).queue = [worker.job call] := by
    rw [queue]
    exact List.append_left_eq_self.mpr through.2
  obtain ⟨news, rested⟩ := exists_run_advance driver count waiting (.waiting worker.count)
    (history ++ [.called (worker.job call)])
  have served := run_serve driver (history ++ [.called (worker.job call)] ++ news) phase only
  refine ⟨.submit :: (List.replicate count .advance ++ [.advance, .advance, .advance, .collect]),
    ?after, ?ran, ?reached, ?returned⟩
  case ran =>
    have whole : Move.ask call :: .submit :: (List.replicate count .advance ++
        [.advance, .advance, .advance, .collect]) = [.ask call, .submit] ++
          (List.replicate count .advance ++ [.advance, .advance, .advance, .collect]) := rfl
    rw [whole, run_append, entered, Option.bind_some, run_append, rested, Option.bind_some]
    exact served
  case reached => simp
  case returned => simp [same, carried]

/-- What a caller can rely on after any moves. A call counts as finished from its mark on, which the
worker sets in the second step after the device has answered. -/
structure Reliable (driver : Driver δ) (device : δ) (exchange : Exchange δ) : Prop where
  /-- Calls are told apart by their numbers. -/
  numbered : exchange.history.calls.map Job.number = List.range exchange.history.calls.length
  /-- A call is sent away exactly if, when it was made, an earlier one had come back because its
  time was up and was not finished. -/
  busy_iff : ∀ (earlier : History) (job : Job), earlier ++ [.called job] <+: exchange.history →
    (.returned job.number (.error .busy) ∈ exchange.history ↔
      ∃ number, earlier.TimedOut number ∧ .finished number ∉ earlier)
  /-- What is finished has been answered by the device, -/
  answered_of_finished : ∀ number, .finished number ∈ exchange.history →
    ∃ job ∈ exchange.history.done, job.number = number
  /-- and what has been answered is finished, or will be by the worker's next step or two. -/
  finished_of_answered : ∀ job ∈ exchange.history.done,
    .finished job.number ∈ exchange.history ∨ job ∈ exchange.worker.phase.unmarked
  /-- A call that is sent away never reaches the device. -/
  not_received : ∀ job ∈ exchange.history.received,
    .returned job.number (.error .busy) ∉ exchange.history
  /-- The others reach it once each, in the order in which they were made. -/
  received : exchange.history.received ++ exchange.pending = exchange.history.accepted
  /-- The device has one call at most, at work or waiting for it. -/
  single : (exchange.worker.phase.working ++ exchange.worker.queue).length ≤ 1
  /-- Every result but for the two that the worker makes is the device's own, to that very call. -/
  own : ∀ number answer, .returned number answer ∈ exchange.history → answer ≠ .error .busy →
    (∀ milliseconds, answer ≠ .error (.timeout milliseconds)) →
    ∃ (earlier : History) (job : Job), earlier ++ [.answered job answer] <+: exchange.history ∧
      job ∈ exchange.history.calls ∧ job.number = number ∧
      answer = (driver job.call (driver.after device (earlier.done.map Job.call))).1
  /-- Between calls, with all those finished that came back late, any call can reach the device and
  return what it answers. -/
  next : exchange.caller = .idle →
    (∀ number, exchange.history.TimedOut number → .finished number ∈ exchange.history) →
    ∀ call, ∃ moves after, exchange.run driver (.ask call :: moves) = some after ∧
      .received (exchange.worker.job call) ∈ after.history ∧
      .returned exchange.worker.count
        (driver call (driver.after device (exchange.history.received.map Job.call))).1 ∈
          after.history

/-- What the device has answered and what it has yet to answer are the calls that were let in. -/
theorem received_append_pending (orderly : Orderly driver device exchange) :
    exchange.history.received ++ exchange.pending = exchange.history.accepted := by
  -- What is pending was let in and is not yet answered.
  rw [orderly.served.received, ← orderly.order, unanswered, List.append_assoc]

/-- Between any moves all is as a caller relies on it. -/
theorem Orderly.reliable (orderly : Orderly driver device exchange) :
    Reliable driver device exchange := by
  -- Most is part of the order; what is not is argued from it.
  constructor
  case numbered =>
    have numbered := orderly.booked.numbered
    have count : exchange.history.calls.length = exchange.worker.count := by
      simpa using congrArg List.length numbered
    rw [numbered, count]
  case busy_iff =>
    intro earlier job early
    rw [← History.isRefused_eq_true_iff]
    exact orderly.booked.judged earlier job early
  case answered_of_finished => exact orderly.served.finished_done
  case finished_of_answered => exact orderly.served.marked_done
  case not_received =>
    intro job arrived
    have accepted : job ∈ exchange.history.accepted := by
      rw [← received_append_pending orderly]
      exact List.mem_append_left _ arrived
    have kept := (List.mem_filter.mp accepted).2
    rw [← History.isRefused_eq_true_iff]
    simpa using kept
  case received => exact received_append_pending orderly
  case single =>
    have single := orderly.single
    simp only [unanswered, pending, List.length_append] at single ⊢
    omega
  case own =>
    intro number answer returned notBusy notTimeout
    rcases orderly.booked.returned number answer returned with
      busy | ⟨milliseconds, late⟩ | ⟨job, answered, same⟩
    · exact absurd busy notBusy
    · exact absurd late (notTimeout milliseconds)
    · obtain ⟨earlier, early, fits⟩ := orderly.fits.of_mem answered
      have accepted : job ∈ exchange.history.accepted := by
        rw [← orderly.order]
        exact List.mem_append_left _ (History.mem_done answered)
      exact ⟨earlier, job, early, History.mem_calls_of_mem_accepted accepted, same, fits⟩
  case next =>
    intro idle finished call
    have free : ¬ exchange.history.IsStalled := by
      rintro ⟨number, timedOut, unfinished⟩
      exact unfinished (finished number timedOut)
    exact exists_run_next orderly idle free call

/-- Whatever the calls and however long each of them takes, a caller can rely on its device. -/
theorem reliable_run {config : HardwareConfig} {moves : List Move} (plain : driver.IsPlain device)
    (ran : (start device config).run driver moves = some final) :
    Reliable driver device final :=
  -- Order holds at first, and every run keeps it.
  ((orderly_start driver device config).run plain ran).reliable

end Exchange

namespace Scripted

/-- No call that nothing stops fails in one of the two ways in which the worker does. -/
theorem perform_plain (device : Scripted) (call : Call) :
    (device.perform call).1 ≠ .error .busy ∧
      ∀ milliseconds, (device.perform call).1 ≠ .error (.timeout milliseconds) := by
  -- A stream that is broken is all that such a call can fail for.
  unfold perform
  split <;> simp

/-- Without failures in its script, a device makes neither of the two that the worker makes, and
none comes into its script. -/
theorem Goes.plain {start after : Scripted} {call : Call} {answer : Answer}
    (goes : Goes start call answer after) (clear : start.failures = []) :
    after.failures = [] ∧ answer ≠ .error .busy ∧
      ∀ milliseconds, answer ≠ .error (.timeout milliseconds) := by
  -- On how the call goes: the script, the only source of such failures, is empty.
  cases goes with
  | failed due =>
    rw [clear] at due
    cases due
  | absent => exact ⟨clear, by simp, by simp⟩
  | locked => exact ⟨clear, by simp, by simp⟩
  | performed =>
    obtain ⟨isOpen, transport, same⟩ := perform_kept (start.noted call) call
    refine ⟨?_, perform_plain (start.noted call) call⟩
    rw [same]
    exact clear

/-- A device whose script is empty is plain. -/
theorem isPlain_of_clear {device : Scripted} (clear : device.failures = []) :
    Driver.IsPlain Scripted.driver device := by
  have still (calls : List Call) : (Driver.after Scripted.driver device calls).failures = [] := by
    -- From the last call backwards: it meets a device whose script the others have left empty.
    induction calls using List.reverseRecOn with
    | nil => exact clear
    | append_singleton calls call ih =>
      rw [Driver.after_append]
      exact ((goes_driver _ call).plain ih).1
  intro calls call
  exact ((goes_driver _ call).plain (still calls)).2

/-- A session is begun, a sign of life takes too long, the next call comes before it is finished,
and one more after that. -/
def lateHeartbeat : List Move :=
  [.ask (.open .memory "passphrase"), .submit, .advance, .advance, .advance, .advance, .collect,
    .ask .heartbeat, .submit, .advance, .expire, .leave, .ask .status,
    .advance, .advance, .advance, .ask .status, .submit, .advance, .advance, .advance, .collect]

/-- What happens then: the call in between is sent away, and the one after it is not. -/
def lateHistory : History :=
  [.called ⟨0, .open .memory "passphrase"⟩, .received ⟨0, .open .memory "passphrase"⟩,
    .answered ⟨0, .open .memory "passphrase"⟩ (.ok .done), .finished 0, .returned 0 (.ok .done),
    .called ⟨1, .heartbeat⟩, .received ⟨1, .heartbeat⟩, .returned 1 (.error (.timeout 60000)),
    .called ⟨2, .status⟩, .returned 2 (.error .busy),
    .answered ⟨1, .heartbeat⟩ (.ok .done), .finished 1,
    .called ⟨3, .status⟩, .received ⟨3, .status⟩,
    .answered ⟨3, .status⟩ (.ok (.state "ready")), .returned 3 (.ok (.state "ready"))]

/-- A device that is late with its sign of life is one that a caller can rely on. -/
theorem reliable_run_lateHeartbeat : ∃ final,
    (Exchange.start (ofLabel "device") .default).run Scripted.driver lateHeartbeat = some final ∧
      final.history = lateHistory ∧
      Exchange.Reliable Scripted.driver (ofLabel "device") final := by
  -- The history is computed; what a caller can rely on needs no more than an empty script.
  have happens : ((Exchange.start (ofLabel "device") .default).run Scripted.driver
      lateHeartbeat).map Exchange.history = some lateHistory := by rfl
  obtain ⟨final, ran, history⟩ := Option.map_eq_some_iff.mp happens
  exact ⟨final, ran, history, Exchange.reliable_run (isPlain_of_clear rfl) ran⟩

end Scripted

end Countersign.Device
