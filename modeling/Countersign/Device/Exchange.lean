import Countersign.Device.Worker

/-! A caller and a worker side by side: either one moves whenever it can, and all that happens is
noted. -/

namespace Countersign.Device

/-- A device after some calls, whatever it answered to them. -/
def Driver.after {δ : Type} (driver : Driver δ) (device : δ) (calls : List Call) : δ :=
  -- The calls are carried out in order.
  calls.foldl (fun state call => (driver call state).2) device

/-- Where the caller is. -/
inductive Caller where
  /-- In no call. -/
  | idle
  /-- In a call that it was let into and has not yet handed over. -/
  | holding (job : Job)
  /-- In a call that it has handed over and waits for. -/
  | waiting (number : Nat)
  /-- In a call whose time is up, and which it has not yet given up on. -/
  | leaving (number : Nat)

/-- The job that the caller has in its hands. -/
def Caller.held : Caller → List Job
  | .holding job => [job]
  | _ => []

/-- The job that the device is at work on. -/
def Phase.working : Phase → List Job
  | .busy job => [job]
  | _ => []

/-- Something that happened. -/
inductive Moment where
  /-- A call was made. -/
  | called (job : Job)
  /-- A call reached the device. -/
  | received (job : Job)
  /-- The device was through with a call, and this was its answer. -/
  | answered (job : Job) (answer : Answer)
  /-- A call was marked as finished. -/
  | finished (number : Nat)
  /-- A call returned to its caller. -/
  | returned (number : Nat) (answer : Answer)

namespace Moment

/-- The call that was made, if one was. -/
def called? : Moment → Option Job
  | .called job => some job
  | _ => none

/-- The call that reached the device, if one did. -/
def received? : Moment → Option Job
  | .received job => some job
  | _ => none

/-- The call that the device was through with, if it was. -/
def answered? : Moment → Option Job
  | .answered job _ => some job
  | _ => none

/-- Whether a call was sent away because of an earlier one. -/
def isRefusal (number : Nat) : Moment → Bool
  | .returned other (.error .busy) => other == number
  | _ => false

end Moment

/-- All that has happened, in order. -/
abbrev History := List Moment

namespace History

/-- The calls that were made, in order. -/
def calls (history : History) : List Job := history.filterMap Moment.called?

/-- The calls that reached the device, in order. -/
def received (history : History) : List Job := history.filterMap Moment.received?

/-- The calls that the device was through with, in order. -/
def done (history : History) : List Job := history.filterMap Moment.answered?

/-- Whether a call was sent away because of an earlier one. -/
def isRefused (history : History) (number : Nat) : Bool := history.any (Moment.isRefusal number)

/-- The calls that were made and not sent away, in order. -/
def accepted (history : History) : List Job :=
  -- A call that has not returned has not been sent away.
  history.calls.filter fun job => !history.isRefused job.number

/-- A call came back because its time was up. -/
def TimedOut (history : History) (number : Nat) : Prop :=
  ∃ milliseconds, .returned number (.error (.timeout milliseconds)) ∈ history

/-- A call came back because its time was up, and it has not been finished since. -/
def IsStalled (history : History) : Prop :=
  ∃ number, history.TimedOut number ∧ .finished number ∉ history

end History

/-- A move of the caller or of the worker. -/
inductive Move where
  /-- The caller makes a call, and is let in or sent away. -/
  | ask (call : Call)
  /-- The caller hands its job over. -/
  | submit
  /-- The caller finds an answer. -/
  | collect
  /-- The caller's time is up, whether or not an answer is there by now. -/
  | expire
  /-- The caller gives up on the call whose time is up. -/
  | leave
  /-- The worker takes a step. -/
  | advance

/-- A worker with its caller, and what has happened between them. -/
structure Exchange (δ : Type) where
  /-- The worker. -/
  worker : Worker δ
  /-- Where the caller is. -/
  caller : Caller
  /-- What has happened so far. -/
  history : History

/-- What happens in the next step of a worker. -/
def Worker.news {δ : Type} (driver : Driver δ) (worker : Worker δ) : List Moment :=
  -- That an answer is sent matters to nobody before it is found.
  match worker.phase with
  | .idle => (worker.queue.take 1).map .received
  | .busy job => [.answered job (driver job.call worker.device).1]
  | .answered _ _ => []
  | .sent job => [.finished job.number]
  | .gone => []

namespace Exchange

variable {δ : Type}

/-- Nothing has happened yet. -/
def start (device : δ) (config : HardwareConfig) : Exchange δ :=
  ⟨.ofConfig device config, .idle, []⟩

/-- The jobs that are on their way to the device, in order. -/
def pending (exchange : Exchange δ) : List Job :=
  -- The caller's own would go to the end of the queue.
  exchange.worker.queue ++ exchange.caller.held

/-- The exchange after a move, if the side whose move it is can make it. -/
def step (driver : Driver δ) (exchange : Exchange δ) (move : Move) : Option (Exchange δ) :=
  -- There is one caller, which makes no call before the last one has returned.
  let ⟨worker, caller, history⟩ := exchange
  match move, caller with
  | .ask call, .idle =>
    let job := worker.job call
    match worker.counted.ready? with
    | none =>
      some ⟨worker.counted, .idle,
        history ++ [.called job, .returned job.number (.error .busy)]⟩
    | some ready => some ⟨ready, .holding job, history ++ [.called job]⟩
  | .submit, .holding job =>
    match worker.submit job with
    | none => some ⟨worker, .idle, history ++ [.returned job.number (.error .disconnected)]⟩
    | some waiting => some ⟨waiting, .waiting job.number, history⟩
  | .collect, .waiting number =>
    (worker.collect number).map fun answer =>
      ⟨worker, .idle, history ++ [.returned number answer]⟩
  | .expire, .waiting number => some ⟨worker, .leaving number, history⟩
  | .leave, .leaving number =>
    some ⟨worker.giveUp number, .idle,
      history ++ [.returned number (.error (.timeout worker.timeout))]⟩
  | .advance, caller => some ⟨worker.advance driver, caller, history ++ worker.news driver⟩
  | _, _ => none

/-- The exchange after some moves, if all of them can be made. -/
def run (driver : Driver δ) (exchange : Exchange δ) : List Move → Option (Exchange δ)
  | [] => some exchange
  | move :: rest => (exchange.step driver move).bind fun next => next.run driver rest

end Exchange

end Countersign.Device
