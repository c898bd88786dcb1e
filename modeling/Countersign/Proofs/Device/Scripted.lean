import Countersign.Device.Exchange
import Countersign.Device.Scripted
import Countersign.Proofs.Past

/-! Runs of a device that follows a script: every call is noted, every failure of the script meets
one call, and nothing is answered outside a session. -/

namespace Countersign.Device

/-- Something to be done with a device that follows a script. -/
inductive Act where
  /-- A call is made. -/
  | call (call : Call)
  /-- A failure is added to the script. -/
  | failNext (error : SignerError)
  /-- The device is taken out. -/
  | unplug
  /-- Another address is to be reported. -/
  | report (address : Address)

/-- The call that is made, if one is. -/
def Act.call? : Act → Option Call
  | .call made => some made
  | _ => none

/-- Something that was done with a device that follows a script. -/
inductive Event where
  /-- A call was made and got an answer. -/
  | called (call : Call) (answer : Answer)
  /-- A failure was added to the script. -/
  | failNext (error : SignerError)
  /-- The device was taken out. -/
  | unplug
  /-- Another address was to be reported. -/
  | report (address : Address)

namespace Event

/-- What was done, without the answer that it got. -/
def act : Event → Act
  | .called call _ => .call call
  | .failNext error => .failNext error
  | .unplug => .unplug
  | .report address => .report address

/-- The call that was made, if one was. -/
def call? (event : Event) : Option Call := event.act.call?

/-- The failure that was added to the script, if one was. -/
def failure? : Event → Option SignerError
  | .failNext error => some error
  | _ => none

/-- The address that was to be reported, if one was. -/
def address? : Event → Option Address
  | .report address => some address
  | _ => none

/-- Whether a session was begun. -/
def opens : Event → Bool
  | .called (.open _ _) (.ok _) => true
  | _ => false

/-- Whether a session was ended by a call. -/
def closes : Event → Bool
  | .called .close (.ok _) => true
  | _ => false

end Event

/-- The failures of a script, as calls have gone through them. -/
structure Script where
  /-- What the calls answered that were made while a failure was due. -/
  drawn : List Answer
  /-- The failures that are due, in order. -/
  due : List SignerError

/-- The script after one more event. -/
def Script.next (script : Script) : Event → Script
  -- Every call takes one failure off, whatever its answer, as long as there are any.
  | .called _ answer =>
    match script.due with
    | [] => script
    | _ :: rest => ⟨script.drawn ++ [answer], rest⟩
  | .failNext error => { script with due := script.due ++ [error] }
  | .unplug => script
  | .report _ => script

/-- All that was done with a device, in order. -/
abbrev Diary := List Event

namespace Diary

/-- The calls that were made, in order. -/
def calls (diary : Diary) : List Call := diary.filterMap Event.call?

/-- The failures that were set, in order. -/
def failures (diary : Diary) : List SignerError := diary.filterMap Event.failure?

/-- The script after all events. -/
def script (diary : Diary) : Script := diary.foldl Script.next ⟨[], []⟩

/-- The address that was last to be reported. -/
def reported (diary : Diary) : Option Address := (diary.filterMap Event.address?).getLast?

/-- A session was begun and not ended since, and the device was never taken out. -/
def IsOpen (diary : Diary) : Prop :=
  (∃ before opening after, diary = before ++ opening :: after ∧ opening.opens = true ∧
    ∀ event ∈ after, event.closes = false) ∧ .unplug ∉ diary

variable {diary : Diary}

/-- One more event moves the script on by a step. -/
@[simp] theorem script_append (diary : Diary) (event : Event) :
    script (diary ++ [event]) = (script diary).next event := by
  -- The script is folded from the left, so the last event comes last.
  simp [script]

/-- Which calls were made does not depend on their answers. -/
theorem calls_eq_filterMap_act (diary : Diary) :
    diary.calls = (diary.map Event.act).filterMap Act.call? := by
  -- An event is stripped of its answer before it is asked for its call.
  rw [List.filterMap_map]
  rfl

/-- One more event adds its call, if it is one. -/
@[simp] theorem calls_append (diary : Diary) (event : Event) :
    calls (diary ++ [event]) = calls diary ++ event.call?.toList := by
  -- On whether it is one.
  cases made : event.call? <;> simp [calls, made]

/-- One more event adds its failure, if it sets one. -/
@[simp] theorem failures_append (diary : Diary) (event : Event) :
    failures (diary ++ [event]) = failures diary ++ event.failure?.toList := by
  -- On whether it does.
  cases set : event.failure? <;> simp [failures, set]

/-- One more event replaces the address to be reported, if it names one. -/
@[simp] theorem reported_append (diary : Diary) (event : Event) :
    reported (diary ++ [event]) = event.address?.or (reported diary) := by
  -- The last address counts, and this event is the last.
  cases told : event.address? <;> simp [reported, told]

/-- A session is open after an event if it was begun then, or was open and is not ended. -/
theorem isOpen_append (event : Event) : IsOpen (diary ++ [event]) ↔
    .unplug ∉ diary ++ [event] ∧ (event.opens = true ∨ event.closes = false ∧ diary.IsOpen) := by
  constructor
  · rintro ⟨⟨before, opening, after, split, opens, unclosed⟩, plugged⟩
    refine ⟨plugged, ?_⟩
    -- The session was begun by the event itself if nothing has happened since.
    rcases List.eq_nil_or_concat after with rfl | ⟨middle, last, rfl⟩
    · obtain ⟨-, same⟩ := List.append_inj' split rfl
      cases same
      exact .inl opens
    · rw [List.concat_eq_append, ← List.cons_append, ← List.append_assoc] at split
      obtain ⟨rfl, same⟩ := List.append_inj' split rfl
      cases same
      have before_plugged : .unplug ∉ before ++ opening :: middle := fun out =>
        plugged (List.mem_append_left _ out)
      refine .inr ⟨unclosed event (by simp), ⟨before, opening, middle, rfl, opens, ?_⟩,
        before_plugged⟩
      intro other member
      exact unclosed other (by simp [member])
  · rintro ⟨plugged, opens | ⟨unclosed, ⟨before, opening, after, rfl, opens, open_⟩, -⟩⟩
    · exact ⟨⟨diary, event, [], rfl, opens, by simp⟩, plugged⟩
    · refine ⟨⟨before, opening, after ++ [event], by simp, opens, ?_⟩, plugged⟩
      intro other member
      rcases List.mem_append.mp member with old | new
      · exact open_ other old
      · rw [List.mem_singleton.mp new]
        exact unclosed

end Diary

namespace Scripted

variable {device : Scripted} {diary : Diary} {call : Call}

/-- The device after something was done with it, and the entry of that in a diary. -/
def act (device : Scripted) : Act → Event × Scripted
  | .call call =>
    let (answer, after) := driver call device
    (.called call answer, after)
  | .failNext error => (.failNext error, device.failNext error)
  | .unplug => (.unplug, device.unplug)
  | .report address => (.report address, device.report address)

/-- The device after some acts, and its diary. -/
def run (device : Scripted) : List Act → Diary × Scripted
  | [] => ([], device)
  | first :: rest =>
    let (event, next) := device.act first
    let (diary, final) := next.run rest
    (event :: diary, final)

/-- The device with one more call noted. -/
def noted (device : Scripted) (call : Call) : Scripted :=
  { device with calls := device.calls ++ [call] }

/-- How a call can go. -/
inductive Goes (device : Scripted) (call : Call) : Answer → Scripted → Prop
  /-- The script has a failure for it. -/
  | failed {error : SignerError} {rest : List SignerError} (due : device.failures = error :: rest) :
    Goes device call (.error error) { device.noted call with failures := rest }
  /-- There is no device. -/
  | absent (clear : device.failures = []) (away : device.isPresent = false) :
    Goes device call (.error .deviceNotFound) (device.noted call)
  /-- There is no session. -/
  | locked (clear : device.failures = []) (present : device.isPresent = true)
      (needs : needsSession call = true) (closed : device.isOpen = false) :
    Goes device call (.error .disconnected) (device.noted call)
  /-- Nothing stops it. -/
  | performed (clear : device.failures = []) (present : device.isPresent = true)
      (ready : needsSession call = true → device.isOpen = true) :
    Goes device call ((device.noted call).perform call).1 ((device.noted call).perform call).2

/-- Every call goes in one of these ways. -/
theorem goes_driver (device : Scripted) (call : Call) :
    Goes device call (driver call device).1 (driver call device).2 := by
  -- On what the device looks at: its script, then whether it is there, then the session.
  cases due : device.failures with
  | cons error rest =>
    have failed : Goes device call _ _ := .failed due
    simpa [driver, enter, due, noted] using failed
  | nil =>
    cases present : device.isPresent with
    | false => simpa [driver, enter, due, present, noted] using Goes.absent due present
    | true =>
      by_cases stopped : needsSession call = true ∧ device.isOpen = false
      · obtain ⟨needs, closed⟩ := stopped
        simpa [driver, enter, due, present, needs, closed, noted] using
          Goes.locked due present needs closed
      · have ready : needsSession call = true → device.isOpen = true := by
          intro needs
          rw [← Bool.not_eq_false]
          exact fun closed => stopped ⟨needs, closed⟩
        have passes : (needsSession call && !device.isOpen) = false := by
          cases needs : needsSession call with
          | false => rfl
          | true => simp [ready needs]
        simpa [driver, enter, due, present, passes, noted] using Goes.performed due present ready

/-- A call that nothing stops changes the session and the stream, and nothing else. -/
theorem perform_kept (device : Scripted) (call : Call) :
    ∃ isOpen transport, (device.perform call).2 = { device with isOpen, transport } := by
  -- Case by case the device is given back with at most these two fields changed.
  unfold perform
  split <;> exact ⟨_, _, rfl⟩

/-- A session is open after a call that nothing stops if the call begins it, or does not end it. -/
theorem perform_isOpen (device : Scripted) (call : Call) :
    (device.perform call).2.isOpen = true ↔
      (Event.called call (device.perform call).1).opens = true ∨
        (Event.called call (device.perform call).1).closes = false ∧ device.isOpen = true := by
  -- Only the calls that begin or end a session answer in a way that says so.
  unfold perform
  split <;> simp [Event.opens, Event.closes]

/-- What a call may answer, given what was done before it to a device with the same keys. -/
def Fits (device : Scripted) (earlier : Diary) : Event → Prop
  | .called call answer =>
    -- A failure that is due comes first, then whether there is a device, then the session.
    match earlier.script.due with
    | error :: _ => answer = .error error
    | [] => (.unplug ∈ earlier → answer = .error .deviceNotFound) ∧
      ∀ reply, answer = .ok reply → needsSession call = true → earlier.IsOpen ∧
        ∀ path bytes, call = .sign path bytes →
          reply = .signed ⟨earlier.reported.getD (device.keyPairAt path).address,
            .ofMessage bytes (device.keyPairAt path).seed⟩
  | _ => True

/-- A device is as its diary has it. -/
structure Kept (start : Scripted) (diary : Diary) (device : Scripted) : Prop where
  /-- The keys are those that it began with. -/
  label : device.label = start.label
  /-- All calls are noted. -/
  calls : device.calls = diary.calls
  /-- The failures to come are those that are due. -/
  due : device.failures = diary.script.due
  /-- Every failure that was set is the answer of a call, or is due. -/
  drawn : diary.failures.map .error = diary.script.drawn ++ diary.script.due.map .error
  /-- It is there unless it was taken out. -/
  present : device.isPresent = true ↔ .unplug ∉ diary
  /-- Its session is the one in the diary. -/
  isOpen : device.isOpen = true ↔ diary.IsOpen
  /-- It reports what it was last told to. -/
  reported : device.reported = diary.reported
  /-- Every call answered as it had to. -/
  fits : Always (Fits start) diary

/-- A new device is as an empty diary has it. -/
theorem kept_ofLabel (label : String) : Kept (ofLabel label) [] (ofLabel label) where
  -- It is there, its session is not open, and nothing was noted or set.
  label := rfl
  calls := rfl
  due := rfl
  drawn := rfl
  present := by simp [ofLabel]
  isOpen := by simp [ofLabel, Diary.IsOpen]
  reported := rfl
  fits := .nil _

namespace Kept

variable {start : Scripted}

/-- A failure that is set waits behind those that are due. -/
theorem failNext (kept : Kept start diary device) (error : SignerError) :
    Kept start (diary ++ [.failNext error]) (device.failNext error) where
  -- Only the script changes, and that on both sides.
  label := kept.label
  calls := by simpa [Scripted.failNext, Event.call?, Event.act, Act.call?] using kept.calls
  due := by simp [Scripted.failNext, Script.next, kept.due]
  drawn := by simp [Event.failure?, Script.next, kept.drawn]
  present := by simpa [Scripted.failNext] using kept.present
  isOpen := by
    rw [Diary.isOpen_append]
    simp [Scripted.failNext, Event.opens, Event.closes, kept.isOpen, Diary.IsOpen]
  reported := by simpa [Scripted.failNext, Event.address?] using kept.reported
  fits := kept.fits.append _ trivial

/-- A device that is taken out is gone, and its session with it. -/
theorem unplug (kept : Kept start diary device) :
    Kept start (diary ++ [.unplug]) device.unplug where
  label := kept.label
  -- What it noted and what its script holds outlast its absence.
  calls := by simpa [Scripted.unplug, Event.call?, Event.act, Act.call?] using kept.calls
  due := by simpa [Scripted.unplug, Script.next] using kept.due
  drawn := by simpa [Event.failure?, Script.next] using kept.drawn
  -- From now on neither side has a device or a session.
  present := by simp [Scripted.unplug]
  isOpen := by simp [Scripted.unplug, Diary.isOpen_append]
  reported := by simpa [Scripted.unplug, Event.address?] using kept.reported
  fits := kept.fits.append _ trivial

/-- Another address to be reported replaces the last one. -/
theorem report (kept : Kept start diary device) (address : Address) :
    Kept start (diary ++ [.report address]) (device.report address) where
  -- Only the reported address changes; the session and the script go on.
  label := kept.label
  calls := by simpa [Scripted.report, Event.call?, Event.act, Act.call?] using kept.calls
  due := by simpa [Scripted.report, Script.next] using kept.due
  drawn := by simpa [Event.failure?, Script.next] using kept.drawn
  present := by simpa [Scripted.report] using kept.present
  isOpen := by
    rw [Diary.isOpen_append]
    simp [Scripted.report, Event.opens, Event.closes, kept.isOpen, Diary.IsOpen]
  reported := by simp [Scripted.report, Event.address?]
  fits := kept.fits.append _ trivial

/-- A call that is stopped leaves everything but its note and the script as it was. -/
theorem stopped {error : SignerError} {after : Scripted} (kept : Kept start diary device)
    (same : after = { device.noted call with failures := after.failures })
    (due : after.failures = (diary.script.next (.called call (.error error))).due)
    (drawn : diary.failures.map .error =
      (diary.script.next (.called call (.error error))).drawn ++ after.failures.map .error)
    (fits : Fits start diary (.called call (.error error))) :
    Kept start (diary ++ [.called call (.error error)]) after := by
  -- The session and all else are those of before, and so are their entries.
  rw [same]
  constructor
  case label => exact kept.label
  case calls => simp [noted, Event.call?, Event.act, Act.call?, kept.calls]
  case due => simpa using due
  case drawn => simpa [Event.failure?, ← due] using drawn
  case present => simpa [noted] using kept.present
  case isOpen =>
    rw [Diary.isOpen_append]
    simp [noted, Event.opens, Event.closes, kept.isOpen, Diary.IsOpen]
  case reported => simpa [noted, Event.address?] using kept.reported
  case fits => exact kept.fits.append _ fits

/-- A call that nothing stops is answered as it has to be. -/
theorem performed (kept : Kept start diary device) (clear : device.failures = [])
    (present : device.isPresent = true)
    (ready : needsSession call = true → device.isOpen = true) :
    Kept start (diary ++ [.called call ((device.noted call).perform call).1])
      ((device.noted call).perform call).2 := by
  have none_due : diary.script.due = [] := kept.due.symm.trans clear
  have plugged : .unplug ∉ diary := kept.present.mp present
  -- Only the session and the stream can change, and the session as the answer says.
  have session := perform_isOpen (device.noted call) call
  obtain ⟨isOpen, transport, same⟩ := perform_kept (device.noted call) call
  constructor
  case label => rw [same]; exact kept.label
  case calls => rw [same]; simp [noted, Event.call?, Event.act, Act.call?, kept.calls]
  case due => rw [same]; simp [noted, Script.next, none_due, clear]
  case drawn => simpa [Event.failure?, Script.next, none_due] using kept.drawn
  case present => rw [same]; simp [noted, present, plugged]
  case isOpen =>
    rw [session, Diary.isOpen_append]
    have before : (device.noted call).isOpen = true ↔ diary.IsOpen := kept.isOpen
    simp [before, plugged]
  case reported => rw [same]; simpa [noted, Event.address?] using kept.reported
  case fits =>
    apply kept.fits.append
    rw [Fits, none_due]
    refine ⟨fun taken => absurd taken plugged, ?_⟩
    intro reply answered needs
    refine ⟨kept.isOpen.mp (ready needs), ?_⟩
    rintro path bytes rfl
    cases answered
    simp [noted, keyPairAt, kept.label, kept.reported]

/-- A call is noted and answered as it has to be. -/
theorem called {answer : Answer} {after : Scripted} (kept : Kept start diary device)
    (goes : Goes device call answer after) :
    Kept start (diary ++ [.called call answer]) after := by
  -- On how the call goes, with the script in the diary for the one in the device.
  cases goes with
  | @failed error rest due =>
    have waiting : diary.script.due = error :: rest := kept.due.symm.trans due
    apply kept.stopped rfl
    · simp [Script.next, waiting]
    · simp [Script.next, waiting, kept.drawn]
    · simp [Fits, waiting]
  | absent clear away =>
    have none_due : diary.script.due = [] := kept.due.symm.trans clear
    apply kept.stopped rfl
    · simp [Script.next, none_due, noted, clear]
    · simpa [Script.next, none_due, noted, clear] using kept.drawn
    · simp [Fits, none_due]
  | locked clear present needs closed =>
    have none_due : diary.script.due = [] := kept.due.symm.trans clear
    have plugged : .unplug ∉ diary := kept.present.mp present
    apply kept.stopped rfl
    · simp [Script.next, none_due, noted, clear]
    · simpa [Script.next, none_due, noted, clear] using kept.drawn
    · simp [Fits, none_due, plugged]
  | performed clear present ready => exact kept.performed clear present ready

/-- A device stays as its diary has it through whatever is done with it. -/
theorem act (kept : Kept start diary device) (act : Act) :
    Kept start (diary ++ [(device.act act).1]) (device.act act).2 := by
  -- One lemma for each act.
  cases act with
  | call call => exact kept.called (goes_driver device call)
  | failNext error => exact kept.failNext error
  | unplug => exact kept.unplug
  | report address => exact kept.report address

/-- However much is done with a device, it stays as its diary has it. -/
theorem run (kept : Kept start diary device) (acts : List Act) :
    Kept start (diary ++ (device.run acts).1) (device.run acts).2 := by
  -- On the acts, with the diary so far in front of those to come.
  induction acts generalizing diary device with
  | nil => simpa [Scripted.run] using kept
  | cons first rest ih => simpa [Scripted.run] using ih (kept.act first)

end Kept

/-- What was done is entered as that. -/
theorem act_event (device : Scripted) (act : Act) : (device.act act).1.act = act := by
  -- The entry adds no more than the answer of a call.
  cases act <;> rfl

/-- The diary of a run says what was done in it, in order. -/
theorem map_act_run (device : Scripted) (acts : List Act) :
    (device.run acts).1.map Event.act = acts := by
  -- On the acts, each of which makes one entry.
  induction acts generalizing device with
  | nil => rfl
  | cons first rest ih => simp [run, act_event, ih]

/-- What a diary has a call answer when a failure is due. -/
theorem Fits.of_due {start : Scripted} {earlier : Diary} {answer : Answer} {error : SignerError}
    {rest : List SignerError} (fits : Fits start earlier (.called call answer))
    (due : earlier.script.due = error :: rest) : answer = .error error := by
  -- The first branch of the rule is for scripts with a failure that is due.
  rwa [Fits, due] at fits

/-- A call to a device that was taken out fails. -/
theorem Fits.of_unplug {start : Scripted} {earlier : Diary} {answer : Answer}
    (fits : Fits start earlier (.called call answer)) (taken : .unplug ∈ earlier) :
    answer = .error (earlier.script.due.headD .deviceNotFound) := by
  -- A failure that is due comes before the absence.
  cases due : earlier.script.due with
  | nil =>
    rw [Fits, due] at fits
    exact fits.1 taken
  | cons error rest => exact fits.of_due due

/-- A call that needs a session and succeeds was made in one, and signs what it was given. -/
theorem Fits.of_ok {start : Scripted} {earlier : Diary} {reply : Reply}
    (fits : Fits start earlier (.called call (.ok reply))) (needs : needsSession call = true) :
    earlier.IsOpen ∧ ∀ path bytes, call = .sign path bytes →
      reply = .signed ⟨earlier.reported.getD (start.keyPairAt path).address,
        .ofMessage bytes (start.keyPairAt path).seed⟩ := by
  -- With a failure that is due it would not have succeeded.
  cases due : earlier.script.due with
  | nil =>
    rw [Fits, due] at fits
    exact fits.2 reply rfl needs
  | cons error rest => cases fits.of_due due

/-- In every run of a new device, told act by act in its diary, all calls are noted in order,
failing ones too; each failure of the script is the answer of one call, the oldest first and before
anything else is looked at; a device that was taken out has no session and answers nothing more; and
what needs a session is answered only in one, a signature being that of the very octets by the key
at the path. -/
theorem run_ofLabel {label : String} {acts : List Act} {diary : Diary} {final : Scripted}
    (ran : (ofLabel label).run acts = (diary, final)) :
    diary.map Event.act = acts ∧
    final.calls = acts.filterMap Act.call? ∧
    diary.failures.map .error = diary.script.drawn ++ diary.script.due.map .error ∧
    (∀ (earlier : Diary) call answer, earlier ++ [.called call answer] <+: diary →
      ∀ error rest, earlier.script.due = error :: rest → answer = .error error) ∧
    (final.isOpen = true → .unplug ∉ diary) ∧
    (∀ (earlier : Diary) call answer, earlier ++ [.called call answer] <+: diary →
      .unplug ∈ earlier → answer = .error (earlier.script.due.headD .deviceNotFound)) ∧
    (final.isOpen = true ↔ diary.IsOpen) ∧
    (∀ (earlier : Diary) call reply, earlier ++ [.called call (.ok reply)] <+: diary →
      needsSession call = true → earlier.IsOpen) ∧
    (∀ (earlier : Diary) path bytes reply,
      earlier ++ [.called (.sign path bytes) (.ok reply)] <+: diary →
        reply = .signed ⟨earlier.reported.getD ((ofLabel label).keyPairAt path).address,
          .ofMessage bytes ((ofLabel label).keyPairAt path).seed⟩) := by
  -- Each part is read off the invariant at the end of the run.
  have kept := (kept_ofLabel label).run acts
  have told := map_act_run (ofLabel label) acts
  rw [ran] at kept told
  rw [List.nil_append] at kept
  refine ⟨told, ?calls, kept.drawn, ?script, ?session, ?gone, kept.isOpen, ?within, ?sign⟩
  case calls => rw [kept.calls, Diary.calls_eq_filterMap_act, told]
  case script =>
    intro earlier call answer early error rest due
    exact Fits.of_due (kept.fits _ _ early) due
  case session =>
    intro isOpen
    exact (kept.isOpen.mp isOpen).2
  case gone =>
    intro earlier call answer early taken
    exact Fits.of_unplug (kept.fits _ _ early) taken
  case within =>
    intro earlier call reply early needs
    exact (Fits.of_ok (kept.fits _ _ early) needs).1
  case sign =>
    intro earlier path bytes reply early
    exact (Fits.of_ok (kept.fits _ _ early) rfl).2 path bytes rfl

/-- A session in which one heartbeat fails as scripted and octets are signed, before the device is
taken out. -/
def interruptedSession : List Act :=
  [.call (.open .memory "passphrase"), .failNext .rejected, .call .heartbeat,
    .call (.sign .default [0x01, 0x02]), .unplug, .call .status]

/-- The diary of an interrupted session, but for what the calls after the first are answered. -/
def interruptedDiary (heartbeat signed status : Answer) : Diary :=
  [.called (.open .memory "passphrase") (.ok .done), .failNext .rejected,
    .called .heartbeat heartbeat, .called (.sign .default [0x01, 0x02]) signed, .unplug,
    .called .status status]

/-- All calls of an interrupted session are noted. The heartbeat gets the failure of the script, the
octets are signed with the key at the path, and behind the removal there is neither a session nor an
answer. -/
theorem run_ofLabel_interruptedSession : ∃ heartbeat reply status final,
    (ofLabel "device").run interruptedSession =
        (interruptedDiary heartbeat (.ok reply) status, final) ∧
      final.calls = [.open .memory "passphrase", .heartbeat, .sign .default [0x01, 0x02],
        .status] ∧
      heartbeat = .error .rejected ∧
      reply = .signed ⟨((ofLabel "device").keyPairAt .default).address,
        .ofMessage [0x01, 0x02] ((ofLabel "device").keyPairAt .default).seed⟩ ∧
      status = .error .deviceNotFound ∧ final.isOpen = false := by
  obtain ⟨heartbeat, reply, status, final, ran⟩ : ∃ heartbeat reply status final,
      (ofLabel "device").run interruptedSession =
        (interruptedDiary heartbeat (.ok reply) status, final) := ⟨_, _, _, _, rfl⟩
  -- That the octets were signed is computed; what the signature is follows, as do the failures.
  obtain ⟨-, calls, -, scripted, session, gone, -, -, signature⟩ := run_ofLabel ran
  let begun : Diary := [.called (.open .memory "passphrase") (.ok .done), .failNext .rejected]
  let alive : Diary := begun ++ [.called .heartbeat heartbeat]
  let taken : Diary := alive ++ [.called (.sign .default [0x01, 0x02]) (.ok reply), .unplug]
  have failed : heartbeat = .error .rejected :=
    scripted begun .heartbeat heartbeat ⟨_, rfl⟩ .rejected [] rfl
  have signed := signature alive .default [0x01, 0x02] reply ⟨_, rfl⟩
  have away : status = .error .deviceNotFound :=
    gone taken .status status ⟨[], rfl⟩ (by simp [taken])
  have closed : final.isOpen = false :=
    Bool.eq_false_iff.mpr fun isOpen => session isOpen (by simp [interruptedDiary])
  exact ⟨heartbeat, reply, status, final, ran, calls, failed, signed, away, closed⟩

end Scripted

end Countersign.Device
