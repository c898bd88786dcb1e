import Countersign.Proofs.Rlp.Words
import Countersign.Rlp.Reader

/-! Reads at a cursor pass one item: a bad header leaves the cursor in place, and behind a good one
it has moved past that item and no further, whatever becomes of the item. -/

namespace Countersign.Rlp

variable {α β : Type}

/-- Before the elements of a list, the first item of its payload is next. -/
theorem Cursor.next_ofPayload (payload : Bytes) :
    (Cursor.ofPayload payload).next =
      match Item.split? payload with
      | .error error => .error error
      | .ok none => .error .tooFewElements
      | .ok (some (item, rest)) => .ok (item, .ofPayload rest) := by
  -- Only at the end of the data does the error depend on where the cursor is.
  simp only [Cursor.next, Cursor.ofPayload]
  rcases Item.split? payload with _ | _ | _ <;> rfl

/-- A payload that begins with a bad header has the error of that header. -/
theorem Fields.read_cons_of_split_error {codec : Codec α} {others : Fields β} {payload : Bytes}
    {error : DecodeError} (failed : Item.split? payload = .error error) :
    (Fields.cons codec others).read payload = .error error := by
  -- The header comes before anything that the field itself may refuse.
  simp only [Fields.cons, failed]
  rfl

/-- A payload that begins with an item is the field of that item and the fields behind it. -/
theorem Fields.read_cons_of_split {codec : Codec α} {others : Fields β} {payload behind : Bytes}
    {item : Item} (found : Item.split? payload = .ok (some (item, behind))) :
    (Fields.cons codec others).read payload = (do
      let first ← codec.ofItem item
      let (rest, left) ← others.read behind
      return ((first, rest), left)) := by
  simp only [Fields.cons, found]
  rfl

/-- A record that is made into something else is read as that. -/
theorem Fields.ofItem_record_bind {γ : Type} {fields : Fields α} {pack : α → β} {unpack : β → α}
    {other : α → γ} {otherUnpack : γ → α} {change : β → γ}
    (changed : ∀ value, change (pack value) = other value) (item : Item) :
    ((fields.record pack unpack).ofItem item >>= fun value => .ok (change value)) =
      (fields.record other otherUnpack).ofItem item := by
  cases item with
  -- A string is no record, whatever would be made of it.
  | octets content => rfl
  | list payload =>
    simp only [Fields.record, Item.payload, Bind.bind, Except.bind]
    rcases fields.read payload with _ | ⟨value, left⟩
    · rfl
    · cases left with
      -- What is left behind the fields is an error on either side.
      | nil => exact congrArg Except.ok (changed value)
      | cons octet rest => rfl

namespace Reader

/-- Of two reads in turn, the second begins where the first has left the cursor. -/
theorem runAt_bind_of_ok {first : Reader α} {next : α → Reader β} {cursor behind : Cursor}
    {value : α} (ran : first.runAt cursor = some (.ok value, behind)) :
    (first >>= next).runAt cursor = (next value).runAt behind := by
  -- A read is a state under errors, which the second read takes up both.
  have steps : (first >>= next).runAt cursor =
      (first.runAt cursor).bind fun ran => (ExceptT.bindCont next ran.1).run ran.2 := rfl
  rw [steps, ran]
  rfl

/-- Of two reads in turn, the second is left out when the first one fails. -/
theorem runAt_bind_of_error {first : Reader α} {next : α → Reader β} {cursor behind : Cursor}
    {error : DecodeError} (failed : first.runAt cursor = some (.error error, behind)) :
    (first >>= next).runAt cursor = some (.error error, behind) := by
  -- The error is carried past the second read, the cursor with it.
  have steps : (first >>= next).runAt cursor =
      (first.runAt cursor).bind fun ran => (ExceptT.bindCont next ran.1).run ran.2 := rfl
  rw [steps, failed]
  rfl

/-- Looking at the cursor gives it as it is. -/
theorem runAt_get (cursor : Cursor) :
    (get : Reader Cursor).runAt cursor = some (.ok cursor, cursor) := rfl

/-- A result that is there moves nothing. -/
theorem runAt_some {found : Option α} {value : α} (present : found = some value)
    (cursor : Cursor) : (liftM found : Reader α).runAt cursor = some (.ok value, cursor) := by
  rw [present]
  rfl

/-- A result that may have failed moves nothing. -/
theorem runAt_except (outcome : Except DecodeError α) (cursor : Cursor) :
    (liftM outcome : Reader α).runAt cursor = some (outcome, cursor) := by
  -- Neither an error nor a value touches the cursor.
  cases outcome <;> rfl

/-- A read that leaves the cursor where it is. -/
def Stays (reader : Reader α) (outcome : Except DecodeError α) : Prop :=
  ∀ cursor : Cursor, reader.runAt cursor = some (outcome, cursor)

/-- A read that moves past the next item, whatever it makes of it, and stays where there is none. -/
def Passes (reader : Reader α) (judge : Item → Except DecodeError α) : Prop :=
  ∀ cursor : Cursor, reader.runAt cursor =
    some (match cursor.next with
      | .error error => (.error error, cursor)
      | .ok (item, behind) => (judge item, behind))

/-- Judging what has been read moves no further. -/
theorem Passes.bind {first : Reader α} {judge : Item → Except DecodeError α} {next : α → Reader β}
    (passes : first.Passes judge) (more : α → Except DecodeError β)
    (stays : ∀ item value, judge item = .ok value → (next value).Stays (more value)) :
    (first >>= next).Passes fun item => judge item >>= more := by
  intro cursor
  have passed := passes cursor
  -- By what stands at the cursor: only there the first read may have moved.
  cases found : cursor.next with
  | error error =>
    rw [found] at passed
    exact runAt_bind_of_error passed
  | ok pair =>
    obtain ⟨item, behind⟩ := pair
    rw [found] at passed
    cases judged : judge item with
    | error error =>
      simp only [judged] at passed ⊢
      exact runAt_bind_of_error passed
    -- The value comes with the cursor behind its item, and there it stays.
    | ok value =>
      simp only [judged] at passed ⊢
      rw [runAt_bind_of_ok passed]
      exact stays item value judged behind

/-- The same judgement of every item is the same read. -/
theorem Passes.congr {reader : Reader α} {judge other : Item → Except DecodeError α}
    (passes : reader.Passes judge) (same : ∀ item, judge item = other item) :
    reader.Passes other := by
  rw [← funext same]
  exact passes

/-- A read succeeds exactly when the item it passes is judged to be a value. -/
theorem Passes.runAt_eq_ok_iff {reader : Reader α} {judge : Item → Except DecodeError α}
    (passes : reader.Passes judge) {cursor behind : Cursor} {value : α} :
    reader.runAt cursor = some (.ok value, behind) ↔
      ∃ item, cursor.next = .ok (item, behind) ∧ judge item = .ok value := by
  rw [passes]
  cases cursor.next with
  -- Where there is no item, there is nothing to judge.
  | error error => simp
  | ok found => simp [Prod.ext_iff, and_comm]

/-- A read fails exactly when it has no item to pass, or passes one that is judged to be none. -/
theorem Passes.runAt_eq_error_iff {reader : Reader α} {judge : Item → Except DecodeError α}
    (passes : reader.Passes judge) {cursor behind : Cursor} {error : DecodeError} :
    reader.runAt cursor = some (.error error, behind) ↔
      cursor.next = .error error ∧ behind = cursor ∨
        ∃ item, cursor.next = .ok (item, behind) ∧ judge item = .error error := by
  rw [passes]
  cases cursor.next with
  -- The cursor tells the two sides apart: it moves past a bad value, not past a bad item.
  | error error => simp [eq_comm]
  | ok found => simp [Prod.ext_iff, and_comm]

/-- A read that succeeds has taken octets off the front of the data. -/
theorem Passes.shortens {reader : Reader α} {judge : Item → Except DecodeError α}
    (passes : reader.Passes judge) {cursor behind : Cursor} {value : α}
    (read : reader.runAt cursor = some (.ok value, behind)) :
    behind.data.length < cursor.data.length := by
  obtain ⟨item, found, -⟩ := passes.runAt_eq_ok_iff.mp read
  obtain ⟨layout, -, -⟩ := Cursor.next_eq_ok_iff.mp found
  -- An item has at least its lead octet.
  have filled := List.length_pos_iff.mpr item.write_ne_nil
  rw [layout, List.length_append]
  omega

/-- Reading an item passes it. -/
theorem item_passes : item.Passes .ok := by
  intro cursor
  obtain ⟨data, inList⟩ := cursor
  cases data with
  | nil => rfl
  | cons lead tail =>
    have counted := Words.first_counts lead tail
    rw [item, runAt_bind_of_ok (runAt_get _)]
    simp only [List.head?_cons, Cursor.next, Item.split?]
    cases found : Item.splitLead lead tail with
    | error error =>
      rw [found] at counted
      -- The computation has an outcome, and this is an error.
      rw [runAt_bind_of_ok (runAt_some counted _), runAt_bind_of_error (runAt_except _ _)]
      rfl
    | ok pair =>
      rw [found] at counted
      obtain ⟨consumed, first, rest⟩ := counted
      rw [runAt_bind_of_ok (runAt_some first _), runAt_bind_of_ok (runAt_except _ _),
        runAt_bind_of_ok (runAt_some rest _)]
      rfl

/-- A read of a string of octets passes what it is read from. -/
theorem bytes_passes : bytes.Passes Item.content := by
  apply Passes.bind item_passes Item.content
  -- Only the form of the item is asked for once it is there.
  intro _ item _ cursor
  cases item <;> rfl

/-- Entering a list passes it. -/
theorem enter_passes : enter.Passes fun item => item.payload.map Cursor.ofPayload := by
  apply Passes.bind item_passes (fun item => item.payload.map Cursor.ofPayload)
  -- The new cursor is over the payload, and the old one is behind the list.
  intro _ item _ cursor
  cases item <;> rfl

/-- An integer of sixty-four bits is judged as the item of its string. -/
theorem word64_passes : word64.Passes Codec.word64.ofItem := by
  refine (Passes.bind bytes_passes (fun content => do
    let value ← Codec.magnitude content
    if 8 < content.length then throw .integerOverflow
    return UInt64.ofNat value) ?_).congr fun _ => rfl
  -- The leading zero is tested before the width, as it is for the item.
  intro _ content _ cursor
  by_cases zero : content.head? = some 0
  · simp only [Codec.magnitude, if_pos zero]
    rfl
  · by_cases wide : 8 < content.length
    · simp only [Codec.magnitude, if_neg zero, if_pos wide]
      rfl
    -- Of eight octets nothing is lost in a word.
    · have value : Words.ofBytes content = UInt64.ofNat (Bytes.toNat content) := by
        rw [← Words.toNat_ofBytes (by omega), UInt64.ofNat_toNat]
      simp only [Codec.magnitude, if_neg zero, if_neg wide, value]
      rfl

/-- An integer of thirty-two bits is judged as the item of its string. -/
theorem word32_passes : word32.Passes Codec.word32.ofItem := by
  -- The wider integer is read first, and its value is narrowed where the cursor is.
  refine (Passes.bind word64_passes (fun value =>
    if Nat.pow 2 32 ≤ value.toNat then .error .integerOverflow
    else .ok (UInt32.ofNat value.toNat)) ?_).congr fun item => ?_
  · intro _ value _ cursor
    by_cases large : Nat.pow 2 32 ≤ value.toNat
    · simp only [if_pos large]
      rfl
    · simp only [if_neg large]
      rfl
  · simp only [Codec.word32]
    cases Codec.word64.ofItem item with
    | error error => rfl
    | ok value =>
      by_cases large : Nat.pow 2 32 ≤ value.toNat
      · simp only [bind, Except.bind, if_pos large]
        rfl
      · simp only [bind, Except.bind, if_neg large]
        rfl

/-- An integer of any size is judged as the item of its string. -/
theorem integer_passes : integer.Passes Codec.integer.ofItem := by
  refine (Passes.bind bytes_passes (fun content => do
    return Int.ofNat (← Codec.magnitude content)) ?_).congr fun _ => rfl
  -- No width is tested here.
  intro _ content _ cursor
  by_cases zero : content.head? = some 0
  · simp only [Codec.magnitude, if_pos zero]
    rfl
  · simp only [Codec.magnitude, if_neg zero]
    rfl

/-- A text is judged as the item of its string. -/
theorem text_passes : text.Passes Codec.text.ofItem := by
  -- The octets are passed before it is known whether they are a text.
  refine (Passes.bind bytes_passes (fun content =>
    (Bytes.toText? content).elim (.error .invalidText) .ok) ?_).congr fun item => ?_
  · intro _ content _ cursor
    cases Bytes.toText? content <;> rfl
  · cases item with
    | list payload => rfl
    | octets content =>
      simp only [Codec.text, Item.content, Bind.bind, Except.bind]
      cases Bytes.toText? content <;> rfl

/-- A read at a cursor of its own ends there, wherever that is. -/
def EndsAt (reader : Reader α) (inner : Cursor) (outcome : Except DecodeError α) : Prop :=
  ∃ last, reader.runAt inner = some (outcome, last)

/-- A read at a cursor of its own leaves this one where it is. -/
theorem EndsAt.within {reader : Reader α} {inner : Cursor} {outcome : Except DecodeError α}
    (ends : reader.EndsAt inner outcome) : (within inner reader).Stays outcome := by
  intro cursor
  -- The other cursor is dropped with whatever it has left.
  obtain ⟨last, ran⟩ := ends
  rw [Reader.within, runAt_bind_of_ok (runAt_some ran cursor)]
  exact runAt_except outcome cursor

/-- Reading at a cursor of its own over a list passes the list as one item. -/
theorem enter_within_passes {reader : Reader α} {judge : Bytes → Except DecodeError α}
    (ends : ∀ payload, reader.EndsAt (.ofPayload payload) (judge payload)) :
    (enter >>= fun inner => within inner reader).Passes fun item => item.payload >>= judge := by
  -- The cursor inside the list is only used up, so a failure there still passes the list.
  refine (Passes.bind enter_passes (fun inner => judge inner.data) ?_).congr ?_
  · intro item inner entered
    obtain ⟨payload, -, rfl⟩ := map_eq_ok_iff.mp entered
    exact (ends payload).within
  · intro item
    cases item <;> rfl

/-- Where no element is left, none is read. -/
theorem runAt_elements_nil (element : Reader α) :
    (elements element).runAt (.ofPayload []) = some (.ok [], .ofPayload []) := by
  change elementsAt element (.ofPayload []) = _
  rw [elementsAt]
  rfl

/-- Elements end with the first one that fails. -/
theorem runAt_elements_of_error {element : Reader α} {cursor behind : Cursor} {error : DecodeError}
    (more : cursor.isEmpty = false) (failed : element.runAt cursor = some (.error error, behind)) :
    (elements element).runAt cursor = some (.error error, behind) := by
  -- The loop is a recursion of its own, which is opened once.
  change elementsAt element cursor = _
  rw [elementsAt, more, failed]
  rfl

/-- Behind an element that takes something off the data the others are read. -/
theorem runAt_elements_of_ok {element : Reader α} {cursor behind last : Cursor} {value : α}
    {outcome : Except DecodeError (List α)} (more : cursor.isEmpty = false)
    (found : element.runAt cursor = some (.ok value, behind))
    (shorter : behind.data.length < cursor.data.length)
    (others : (elements element).runAt behind = some (outcome, last)) :
    (elements element).runAt cursor = some (outcome.map (value :: ·), last) := by
  have rest : elementsAt element behind = some (outcome, last) := others
  change elementsAt element cursor = _
  rw [elementsAt, more, found]
  -- The loop stops where an element takes nothing, which this one does not.
  simp only [Bool.false_eq_true, ↓reduceIte, if_pos shorter, rest, Option.map_some]

/-- Fields are read from the front of a payload, or fail as they do. -/
def Collects (reader : Reader α) (fields : Fields β) (pack : β → α) : Prop :=
  ∀ payload, match fields.read payload with
    | .error error => reader.EndsAt (.ofPayload payload) (.error error)
    | .ok (value, left) =>
      reader.runAt (.ofPayload payload) = some (.ok (pack value), .ofPayload left)

/-- No fields are read without moving. -/
theorem pure_collects {value : α} {pack : Unit → α} (packed : pack () = value) :
    (pure value : Reader α).Collects Fields.nil pack := by
  -- There is nothing to read, so nothing depends on the payload.
  intro payload
  rw [← packed]
  rfl

/-- A field in front of others is read in front of them. -/
theorem Passes.collects {γ : Type} {first : Reader α} {codec : Codec α} {next : α → Reader γ}
    {others : Fields β} {pack : α × β → γ} (passes : first.Passes codec.ofItem)
    (collects : ∀ value, (next value).Collects others fun rest => pack (value, rest)) :
    (first >>= next).Collects (Fields.cons codec others) pack := by
  intro payload
  have passed := passes (.ofPayload payload)
  rw [Cursor.next_ofPayload] at passed
  -- What the fields make of the first item decides how far the reader comes.
  cases found : Item.split? payload with
  | error error =>
    rw [found] at passed
    rw [Fields.read_cons_of_split_error found]
    exact ⟨_, runAt_bind_of_error passed⟩
  | ok split =>
    rw [found] at passed
    cases split with
    | none =>
      obtain rfl := Item.eq_nil_of_split found
      exact ⟨_, runAt_bind_of_error passed⟩
    | some pair =>
      obtain ⟨item, behind⟩ := pair
      rw [Fields.read_cons_of_split found]
      cases judged : codec.ofItem item with
      | error error =>
        simp only [judged] at passed
        exact ⟨_, runAt_bind_of_error passed⟩
      | ok value =>
        simp only [judged] at passed
        have moved : (first >>= next).runAt (.ofPayload payload) =
            (next value).runAt (.ofPayload behind) := runAt_bind_of_ok passed
        have rest := collects value behind
        cases read : others.read behind with
        | error error =>
          rw [read] at rest
          obtain ⟨last, restRan⟩ := rest
          exact ⟨last, moved.trans restRan⟩
        | ok found =>
          rw [read] at rest
          exact moved.trans rest

/-- A record is read as the list of its fields. -/
theorem Collects.record {reader : Reader α} {fields : Fields β} {pack : β → α} {unpack : α → β}
    (collects : reader.Collects fields pack) :
    (record reader).Passes (fields.record pack unpack).ofItem := by
  refine enter_within_passes fun payload => ?_
  have collected := collects payload
  cases read : fields.read payload with
  | error error =>
    rw [read] at collected
    obtain ⟨last, ran⟩ := collected
    exact ⟨last, runAt_bind_of_error ran⟩
  | ok found =>
    obtain ⟨value, left⟩ := found
    rw [read] at collected
    refine ⟨.ofPayload left, ?_⟩
    rw [runAt_bind_of_ok collected]
    -- What is left over is refused here as it is where the fields are read.
    cases left <;> rfl

/-- Elements are read one after another up to the end of the payload or the first error. -/
theorem elements_endsAt {element : Reader α} {codec : Codec α}
    (passes : element.Passes codec.ofItem) (payload : Bytes) :
    (elements element).EndsAt (.ofPayload payload) (codec.readAll payload) := by
  -- The recursion follows the reader of the payload, which takes one item off it at a time.
  induction payload using Codec.readAll.induct with
  | case1 payload error failed =>
    have more : (Cursor.ofPayload payload).isEmpty = false := by
      cases payload with
      | nil => cases failed
      | cons octet rest => rfl
    have passed := passes (.ofPayload payload)
    rw [Cursor.next_ofPayload, failed] at passed
    rw [Codec.readAll_of_split_error failed]
    exact ⟨_, runAt_elements_of_error more passed⟩
  | case2 payload ended =>
    obtain rfl := Item.eq_nil_of_split ended
    rw [Codec.readAll_nil]
    exact ⟨_, runAt_elements_nil element⟩
  | case3 payload item rest found ih =>
    have more : (Cursor.ofPayload payload).isEmpty = false := by
      cases payload with
      | nil => cases found
      | cons octet rest => rfl
    have passed := passes (.ofPayload payload)
    rw [Cursor.next_ofPayload, found] at passed
    rw [Codec.readAll_of_split found]
    cases judged : codec.ofItem item with
    | error error =>
      simp only [judged] at passed
      exact ⟨_, runAt_elements_of_error more passed⟩
    | ok value =>
      simp only [judged] at passed
      obtain ⟨last, othersRan⟩ := ih
      have ran := runAt_elements_of_ok more passed (Item.length_of_split found) othersRan
      refine ⟨last, ran.trans ?_⟩
      cases codec.readAll rest <;> rfl

/-- A list of elements is read as one item. -/
theorem list_passes {element : Reader α} {codec : Codec α} (passes : element.Passes codec.ofItem) :
    (list element).Passes codec.list.ofItem :=
  -- The elements end where the payload does.
  enter_within_passes (elements_endsAt passes)

end Reader

end Countersign.Rlp
