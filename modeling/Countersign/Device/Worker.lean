import Countersign.Config
import Countersign.Device.Scripted

/-! A worker that makes the calls of a device one by one, and callers that wait only so long. -/

namespace Countersign.Device

/-- What a call comes to. -/
abbrev Answer := Except SignerError Reply

/-- A call on its way to the device, under the number that tells it from all other calls. -/
structure Job where
  /-- How many calls were made before it. -/
  number : Nat
  /-- The call. -/
  call : Call
  deriving DecidableEq

/-- What the worker is doing. -/
inductive Phase where
  /-- It waits for a job. -/
  | idle
  /-- The device is at work on a call. -/
  | busy (job : Job)
  /-- The device is through with a call, and its answer has not been sent. -/
  | answered (job : Job) (answer : Answer)
  /-- The answer has been sent, and the call has not been marked as finished. -/
  | sent (job : Job)
  /-- It has broken down and will never do anything again. -/
  | gone

/-- Whether the worker has broken down. -/
def Phase.isGone : Phase → Bool
  | .gone => true
  | _ => false

/-- A worker with its device, and what it shares with its caller. -/
structure Worker (δ : Type) where
  /-- The device. -/
  device : δ
  /-- What the worker is doing. -/
  phase : Phase
  /-- The jobs that have been handed over and not yet taken up, in order. -/
  queue : List Job
  /-- The answers that have been sent, each under the number of its own call. -/
  answers : List (Nat × Answer)
  /-- The numbers of the calls that are marked as finished. -/
  finished : List Nat
  /-- The call that the caller has given up on, until it is found to be finished. -/
  stalled : Option Nat
  /-- How many calls have been made. -/
  count : Nat
  /-- How long a caller waits, in milliseconds. -/
  timeout : UInt64
  /-- The path to the key that signs. -/
  path : Path

/-- How a call that is handed to the worker goes. -/
inductive Course where
  /-- It ends in time. -/
  | prompt
  /-- It does not end in time. -/
  | late
  /-- The worker breaks down in it. -/
  | fatal
  deriving DecidableEq

namespace Worker

variable {δ : Type}

/-- A worker that has nothing to do, under the settings of a configuration. -/
def ofConfig (device : δ) (config : HardwareConfig) : Worker δ :=
  -- The settings never change.
  ⟨device, .idle, [], [], [], none, 0, config.timeout, config.path⟩

/-- The job of the next call to be made. -/
def job (worker : Worker δ) (call : Call) : Job := ⟨worker.count, call⟩

/-- The worker with one more call made. -/
def counted (worker : Worker δ) : Worker δ := { worker with count := worker.count + 1 }

/-- Whether a call that was given up on still keeps the device. -/
def isStalled (worker : Worker δ) : Bool :=
  -- The mark of that call is looked up, and no other one.
  worker.stalled.any fun number => number ∉ worker.finished

/-- The worker ready for one more call, unless the device is kept by a call given up on. -/
def ready? (worker : Worker δ) : Option (Worker δ) :=
  -- A call that has finished in the meantime is forgotten.
  if worker.isStalled then none else some { worker with stalled := none }

/-- A job at the end of the queue, if there is anybody to take it up. -/
def submit (worker : Worker δ) (job : Job) : Option (Worker δ) :=
  -- A worker that has broken down takes the queue with it.
  if worker.phase.isGone then none else some { worker with queue := worker.queue ++ [job] }

/-- One step of the worker's own. -/
def advance (driver : Driver δ) (worker : Worker δ) : Worker δ :=
  -- The answer is sent before the mark is set.
  match worker.phase with
  | .idle =>
    match worker.queue with
    | [] => worker
    | job :: rest => { worker with phase := .busy job, queue := rest }
  | .busy job =>
    let (answer, device) := driver job.call worker.device
    { worker with device, phase := .answered job answer }
  | .answered job answer =>
    { worker with phase := .sent job, answers := (job.number, answer) :: worker.answers }
  | .sent job => { worker with phase := .idle, finished := job.number :: worker.finished }
  | .gone => worker

/-- So many steps of the worker's own. -/
def advanceBy (driver : Driver δ) : Nat → Worker δ → Worker δ
  | 0, worker => worker
  | count + 1, worker => advanceBy driver count (worker.advance driver)

/-- The worker after it has broken down in the call that the device is at work on. -/
def breakDown (worker : Worker δ) : Worker δ :=
  -- Neither that call nor any in the queue is ever answered or marked.
  match worker.phase with
  | .busy _ => { worker with phase := .gone, queue := [] }
  | _ => worker

/-- What the caller of a call finds when it looks for its answer; nothing if it has to wait. -/
def collect (worker : Worker δ) (number : Nat) : Option Answer :=
  -- Without a worker no answer will come, and the caller notices.
  match worker.answers.lookup number with
  | some answer => some answer
  | none => if worker.phase.isGone then some (.error .disconnected) else none

/-- The worker whose caller has given up on a call. -/
def giveUp (worker : Worker δ) (number : Nat) : Worker δ :=
  -- From now on the mark of that call decides whether another one is let in.
  { worker with stalled := some number }

/-- What the worker does while the caller of a call waits. -/
def follow (driver : Driver δ) (worker : Worker δ) : Course → Worker δ
  -- Taking the job up, carrying it out, sending the answer and marking the call are four steps.
  | .prompt => worker.advanceBy driver 4
  | .late => worker.advance driver
  | .fatal => (worker.advance driver).breakDown

/-- The answer that the caller of a call gets, when the call goes in a given way. -/
def call (driver : Driver δ) (worker : Worker δ) (request : Call) (course : Course) :
    Answer × Worker δ :=
  -- No call is handed over while an earlier one is unfinished.
  let job := worker.job request
  match worker.counted.ready? with
  | none => (.error .busy, worker.counted)
  | some ready =>
    match ready.submit job with
    | none => (.error .disconnected, ready)
    | some waiting =>
      let after := waiting.follow driver course
      match after.collect job.number with
      | some answer => (answer, after)
      | none => (.error (.timeout after.timeout), after.giveUp job.number)

/-- The worker after the call it is held in has come to its end; its answer reaches nobody. -/
def finish (driver : Driver δ) (worker : Worker δ) : Worker δ :=
  -- The device carries the call out all the same, and the call is marked.
  worker.advanceBy driver 3

end Worker

/-- What stands between a worker and its device. -/
inductive Gate where
  /-- Calls pass. -/
  | open
  /-- Calls are held up until the gate opens. -/
  | shut
  /-- The next call brings the worker down. -/
  | trap
  deriving DecidableEq

/-- A worker behind a gate. -/
structure Gated (δ : Type) where
  /-- The worker. -/
  worker : Worker δ
  /-- The gate. -/
  gate : Gate

namespace Gated

variable {δ : Type}

/-- The course of a call at a gate. -/
def course : Gate → Course
  | .open => .prompt
  | .shut => .late
  | .trap => .fatal

/-- A call through the gate. -/
def call (driver : Driver δ) (gated : Gated δ) (request : Call) : Answer × Gated δ :=
  -- The gate decides how the call goes.
  let (answer, worker) := gated.worker.call driver request (course gated.gate)
  (answer, { gated with worker })

/-- The gate moved, unless it is a trap, which stays until it has closed on a call. -/
def move (gate : Gate) : Gate → Gate
  | .trap => .trap
  | _ => gate

/-- The gate shut, so that calls are held up from now on. -/
def stall (gated : Gated δ) : Gated δ := { gated with gate := move .shut gated.gate }

/-- The gate opened, the held call finished, and the sign of life asked for after it. -/
def release (driver : Driver δ) (gated : Gated δ) : Answer × Gated δ :=
  -- The answer to the held call is lost.
  let opened : Gated δ := ⟨gated.worker.finish driver, move .open gated.gate⟩
  opened.call driver .heartbeat

/-- The worker brought down in the held call, or in the next one. -/
def crash (gated : Gated δ) : Gated δ :=
  -- A held call is hit at once.
  match gated.worker.phase with
  | .busy _ => { gated with worker := gated.worker.breakDown }
  | _ => { gated with gate := .trap }

/-- The worker as a signer with the key at its path. -/
def signer (driver : Driver δ) : Signer (Gated δ) := fun bytes gated =>
  -- A device that answers something else has not signed.
  match gated.call driver (.sign gated.worker.path bytes) with
  | (.ok (.signed signed), after) => (.ok signed, after)
  | (.ok _, after) => (.error .disconnected, after)
  | (.error error, after) => (.error error, after)

end Gated

end Countersign.Device
