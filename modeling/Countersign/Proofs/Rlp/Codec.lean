import Countersign.Rlp.Codec
import Countersign.Proofs.Rlp.Item

/-! Laws of codecs: what is written reads back, what is read was written, and writing fails with
the first negative integer only. -/

namespace Countersign.Rlp

variable {α β : Type}

/-- The first of some integers that has no written form. -/
def firstNegative (integers : List Int) : Option Int :=
  -- Zero has a written form.
  integers.find? fun value => decide (value < 0)

/-- Integers behind others are looked at only when none of those is negative. -/
theorem firstNegative_append (front back : List Int) :
    firstNegative (front ++ back) = (firstNegative front).or (firstNegative back) := by
  -- The search goes on where it found nothing.
  rw [firstNegative, List.find?_append]
  rfl

/-- No integer is negative exactly when all have a written form. -/
theorem firstNegative_eq_none_iff {integers : List Int} :
    firstNegative integers = none ↔ ∀ value ∈ integers, 0 ≤ value := by
  -- The search finds nothing exactly when its test fails everywhere.
  simp [firstNegative]

/-- Two written forms stand one behind the other exactly when both parts are written. -/
theorem append_eq_ok_iff {first second : Except EncodeError Bytes} {payload : Bytes} :
    (do let front ← first; let back ← second; return front ++ back) = .ok payload ↔
      ∃ front back, first = .ok front ∧ second = .ok back ∧ payload = front ++ back := by
  rw [bind_eq_ok_iff]
  constructor
  -- The first form is made before the second.
  · intro steps
    obtain ⟨front, frontWritten, afterFront⟩ := steps
    obtain ⟨back, backWritten, made⟩ := bind_eq_ok_iff.mp afterFront
    cases made
    exact ⟨front, back, frontWritten, backWritten, rfl⟩
  · intro parts
    obtain ⟨front, back, frontWritten, backWritten, rfl⟩ := parts
    exact ⟨front, frontWritten, bind_eq_ok_iff.mpr ⟨back, backWritten, rfl⟩⟩

/-- Of two parts, the second can only decide the error when the first has none. -/
theorem append_eq_error_iff {first second : Except EncodeError Bytes} {front back : List Int}
    {negative : Int}
    (firstFails : ∀ {value}, first = .error (.negativeInteger value) ↔
      firstNegative front = some value)
    (secondFails : ∀ {value}, second = .error (.negativeInteger value) ↔
      firstNegative back = some value) :
    (do let front ← first; let back ← second; return front ++ back) =
        .error (.negativeInteger negative) ↔
      firstNegative (front ++ back) = some negative := by
  rw [firstNegative_append, Option.or_eq_some_iff, ← firstFails, ← secondFails]
  cases first with
  | error error =>
    -- The first part holds a negative integer, so the search never reaches the second.
    obtain ⟨value⟩ := error
    have found := firstFails.mp rfl
    simp [bind, Except.bind, found]
  | ok written =>
    have clear : firstNegative front = none := by
      cases found : firstNegative front with
      | none => rfl
      | some value => cases firstFails.mpr found
    cases second <;> simp [bind, Except.bind, clear, pure, Except.pure]

/-- The laws of a codec whose values hold the given integers, in the order of writing. -/
structure Codec.Lawful (codec : Codec α) (integers : α → List Int) : Prop where
  /-- Writing fails exactly with the first negative integer. -/
  toItem_eq_error_iff : ∀ {value : α} {negative : Int},
    codec.toItem value = .error (.negativeInteger negative) ↔
      firstNegative (integers value) = some negative
  /-- The item of a value is read as that value. -/
  ofItem_of_toItem : ∀ {value : α} {item : Item}, codec.toItem value = .ok item →
    item.write.length < 2 ^ 64 → codec.ofItem item = .ok value
  /-- An item that is read as a value is the item of that value. -/
  toItem_of_ofItem : ∀ {value : α} {item : Item}, codec.ofItem item = .ok value →
    codec.toItem value = .ok item

/-- The laws of fields whose values hold the given integers, in the order of writing. -/
structure Fields.Lawful (fields : Fields α) (integers : α → List Int) : Prop where
  /-- Writing fails exactly with the first negative integer. -/
  write_eq_error_iff : ∀ {value : α} {negative : Int},
    fields.write value = .error (.negativeInteger negative) ↔
      firstNegative (integers value) = some negative
  /-- Written fields are read from the front of what they stand before. -/
  read_of_write : ∀ {value : α} {payload : Bytes} (rest : Bytes),
    fields.write value = .ok payload → payload.length < 2 ^ 64 →
      fields.read (payload ++ rest) = .ok (value, rest)
  /-- Fields that are read were written at the front of the payload. -/
  write_of_read : ∀ {value : α} {payload rest : Bytes},
    fields.read payload = .ok (value, rest) →
      ∃ front, fields.write value = .ok front ∧ payload = front ++ rest

namespace Item

/-- A string is no longer than its written form. -/
theorem length_content_le (content : Bytes) :
    content.length ≤ (Item.octets content).write.length := by
  -- A header only adds to it.
  rcases write_octets_cases content with ⟨octet, rfl, -, written⟩ | ⟨-, written⟩
  · exact Nat.le_of_eq (congrArg List.length written.symm)
  · rw [written, List.length_append]
    omega

/-- A payload is no longer than the written form of its list. -/
theorem length_payload_le (payload : Bytes) :
    payload.length ≤ (Item.list payload).write.length := by
  -- A header only adds to it.
  rw [write_list, List.length_append]
  omega

/-- An item has a string as content exactly when it is that string. -/
theorem content_eq_ok_iff {item : Item} {content : Bytes} :
    item.content = .ok content ↔ item = .octets content := by
  -- A list has no content.
  cases item <;> simp [Item.content]

/-- An item has a payload exactly when it is the list of that payload. -/
theorem payload_eq_ok_iff {item : Item} {payload : Bytes} :
    item.payload = .ok payload ↔ item = .list payload := by
  -- A string has no payload.
  cases item <;> simp [Item.payload]

end Item

namespace Codec

variable {codec : Codec α} {integers : α → List Int}

/-- Octets are a number exactly when they are the shortest ones of that number. -/
theorem magnitude_eq_ok_iff {content : Bytes} {value : Nat} :
    magnitude content = .ok value ↔ content = Bytes.ofNat value := by
  unfold magnitude
  constructor
  · intro read
    split at read
    · cases read
    -- Without a zero in front the octets are the shortest ones.
    · rename_i minimal
      cases read
      exact (Bytes.ofNat_toNat minimal).symm
  · intro written
    rw [written, if_neg (Bytes.head?_ofNat value), Bytes.toNat_ofNat]

/-- An item is an integer of sixty-four bits exactly when it is the one written for it. -/
theorem word64_ofItem_eq_ok_iff {item : Item} {value : UInt64} :
    word64.ofItem item = .ok value ↔ item = .octets (Bytes.ofNat value.toNat) := by
  simp only [word64]
  constructor
  · intro read
    obtain ⟨content, contentRead, afterContent⟩ := bind_eq_ok_iff.mp read
    obtain ⟨number, numberRead, checked⟩ := bind_eq_ok_iff.mp afterContent
    obtain rfl := Item.content_eq_ok_iff.mp contentRead
    obtain rfl := magnitude_eq_ok_iff.mp numberRead
    split at checked
    · cases checked
    · rename_i short
      cases checked
      -- Eight octets hold no more than sixty-four bits.
      have bound := Bytes.toNat_lt (Bytes.ofNat number)
      have power : 256 ^ (Bytes.ofNat number).length ≤ 256 ^ 8 :=
        Nat.pow_le_pow_right (by omega) (by omega)
      rw [Bytes.toNat_ofNat] at bound
      rw [UInt64.toNat_ofNat_of_lt' (by change _ < 2 ^ 64; omega)]
  · intro written
    subst written
    have short : (Bytes.ofNat value.toNat).length ≤ 8 :=
      Bytes.length_ofNat_le (by have := value.toNat_lt; omega)
    have number : magnitude (Bytes.ofNat value.toNat) = .ok value.toNat :=
      magnitude_eq_ok_iff.mpr rfl
    simp only [Item.content, number, bind, Except.bind]
    rw [if_neg (by omega), UInt64.ofNat_toNat]
    rfl

/-- An item is an integer of thirty-two bits exactly when it is the one written for it. -/
theorem word32_ofItem_eq_ok_iff {item : Item} {value : UInt32} :
    word32.ofItem item = .ok value ↔ item = .octets (Bytes.ofNat value.toNat) := by
  simp only [word32]
  have words : Nat.pow 2 32 = 2 ^ 32 := rfl
  constructor
  · intro read
    obtain ⟨wide, wideRead, checked⟩ := bind_eq_ok_iff.mp read
    obtain rfl := word64_ofItem_eq_ok_iff.mp wideRead
    split at checked
    · cases checked
    · rename_i small
      cases checked
      rw [UInt32.toNat_ofNat_of_lt' (by change _ < 2 ^ 32; omega)]
  · intro written
    subst written
    have small := value.toNat_lt
    -- The value is the same with sixty-four bits.
    have wide : (UInt64.ofNat value.toNat).toNat = value.toNat :=
      UInt64.toNat_ofNat_of_lt' (by change _ < 2 ^ 64; omega)
    have wideRead : word64.ofItem (.octets (Bytes.ofNat value.toNat)) =
        .ok (UInt64.ofNat value.toNat) := by
      rw [word64_ofItem_eq_ok_iff, wide]
    simp only [wideRead, bind, Except.bind, wide]
    rw [if_neg (by omega), UInt32.ofNat_toNat]
    rfl

/-- Octet strings hold no integers and are their own content. -/
theorem bytes_lawful : bytes.Lawful fun _ => [] where
  toItem_eq_error_iff := by simp [bytes, firstNegative]
  ofItem_of_toItem written _ := by
    -- Content is wrapped and unwrapped as it is.
    cases written
    rfl
  toItem_of_ofItem read := by
    rw [Item.content_eq_ok_iff.mp read]
    rfl

/-- Texts hold no integers and are told by their octets. -/
theorem text_lawful : text.Lawful fun _ => [] where
  toItem_eq_error_iff := by simp [text, firstNegative]
  ofItem_of_toItem {value item} written _ := by
    cases written
    simp [text, Item.content, bind, Except.bind, pure, Except.pure]
  toItem_of_ofItem {value item} read := by
    simp only [text] at read
    obtain ⟨content, contentRead, checked⟩ := bind_eq_ok_iff.mp read
    obtain rfl := Item.content_eq_ok_iff.mp contentRead
    split at checked
    -- Octets that are a text are the octets of that text.
    · rename_i found
      cases checked
      simp only [text, Bytes.ofText_of_toText? found]
    · cases checked

/-- Integers of sixty-four bits are never negative. -/
theorem word64_lawful : word64.Lawful fun _ => [] where
  toItem_eq_error_iff := by simp [word64, firstNegative]
  ofItem_of_toItem written _ := by
    -- A word is written as the shortest octets of its number, and only these are read.
    cases written
    exact word64_ofItem_eq_ok_iff.mpr rfl
  toItem_of_ofItem read := by
    rw [word64_ofItem_eq_ok_iff.mp read]
    rfl

/-- Integers of thirty-two bits are never negative. -/
theorem word32_lawful : word32.Lawful fun _ => [] where
  toItem_eq_error_iff := by simp [word32, firstNegative]
  ofItem_of_toItem written _ := by
    -- So is a narrower one.
    cases written
    exact word32_ofItem_eq_ok_iff.mpr rfl
  toItem_of_ofItem read := by
    rw [word32_ofItem_eq_ok_iff.mp read]
    rfl

/-- An integer of any size is the only integer that it holds. -/
theorem integer_lawful : integer.Lawful fun value => [value] where
  toItem_eq_error_iff {value negative} := by
    -- The sign is all that can go wrong.
    by_cases below : value < 0
    · simp [integer, firstNegative, below]
    · simp [integer, firstNegative, below]
  ofItem_of_toItem {value item} written _ := by
    simp only [integer] at written
    split at written
    · cases written
    · rename_i above
      cases written
      -- What is not negative is its own absolute value.
      have number : magnitude (Bytes.ofNat value.toNat) = .ok value.toNat :=
        magnitude_eq_ok_iff.mpr rfl
      simp only [integer, Item.content, number, bind, Except.bind]
      exact congrArg Except.ok (Int.toNat_of_nonneg (by omega))
  toItem_of_ofItem {value item} read := by
    simp only [integer] at read
    obtain ⟨content, contentRead, afterContent⟩ := bind_eq_ok_iff.mp read
    obtain ⟨number, numberRead, made⟩ := bind_eq_ok_iff.mp afterContent
    obtain rfl := Item.content_eq_ok_iff.mp contentRead
    obtain rfl := magnitude_eq_ok_iff.mp numberRead
    cases made
    simp only [integer]
    rw [if_neg (by simp)]
    rfl

/-- A codec seen through a pair of inverse maps keeps its laws. -/
theorem Lawful.iso (lawful : codec.Lawful integers) {pack : α → β} {unpack : β → α}
    (packed : ∀ value, pack (unpack value) = value)
    (unpacked : ∀ value, unpack (pack value) = value) :
    (codec.iso pack unpack).Lawful fun value => integers (unpack value) where
  toItem_eq_error_iff := lawful.toItem_eq_error_iff
  ofItem_of_toItem {value item} written bounded := by
    have read := lawful.ofItem_of_toItem written bounded
    -- What is read is packed again.
    simp only [Codec.iso, read, Except.map, packed]
  toItem_of_ofItem {value item} read := by
    obtain ⟨inner, innerRead, rfl⟩ := map_eq_ok_iff.mp read
    -- What was packed is unpacked again.
    simp only [Codec.iso, unpacked]
    exact lawful.toItem_of_ofItem innerRead

/-- What is written for several values is the item of the first in front of the others. -/
theorem writeAll_cons_eq_ok_iff {value : α} {values : List α} {payload : Bytes} :
    codec.writeAll (value :: values) = .ok payload ↔
      ∃ item back, codec.toItem value = .ok item ∧ codec.writeAll values = .ok back ∧
        payload = item.write ++ back := by
  rw [writeAll, append_eq_ok_iff]
  constructor
  · intro parts
    obtain ⟨front, back, frontWritten, backWritten, rfl⟩ := parts
    -- Each written form is that of an item.
    obtain ⟨item, itemMade, rfl⟩ := map_eq_ok_iff.mp frontWritten
    exact ⟨item, back, itemMade, backWritten, rfl⟩
  · intro parts
    obtain ⟨item, back, itemMade, backWritten, rfl⟩ := parts
    exact ⟨item.write, back, map_eq_ok_iff.mpr ⟨item, itemMade, rfl⟩, backWritten, rfl⟩

/-- A payload without octets holds no values. -/
theorem readAll_nil : codec.readAll [] = .ok [] := by
  -- No item begins where there are no octets.
  rw [readAll]
  rfl

/-- A payload that begins with an item is the value of that item and the values behind it. -/
theorem readAll_of_split {payload rest : Bytes} {item : Item}
    (found : Item.split? payload = .ok (some (item, rest))) :
    codec.readAll payload = (do
      let value ← codec.ofItem item
      let values ← codec.readAll rest
      return value :: values) := by
  rw [readAll]
  -- Of the three ways to begin this is the one with an item.
  split
  · rename_i failed
    rw [found] at failed
    cases failed
  · rename_i ended
    rw [found] at ended
    cases ended
  · rename_i same
    rw [found] at same
    cases same
    rfl

/-- A payload that begins with a bad header has the error of that header. -/
theorem readAll_of_split_error {payload : Bytes} {error : DecodeError}
    (failed : Item.split? payload = .error error) : codec.readAll payload = .error error := by
  rw [readAll]
  -- Of the three ways to begin this is the one with an error.
  split
  · rename_i same
    rw [failed] at same
    cases same
    rfl
  · rename_i ended
    rw [failed] at ended
    cases ended
  · rename_i found
    rw [failed] at found
    cases found

/-- Values that are written one behind the other are read back in their order. -/
theorem readAll_of_writeAll (lawful : codec.Lawful integers) {values : List α} {payload : Bytes}
    (written : codec.writeAll values = .ok payload) (bounded : payload.length < 2 ^ 64) :
    codec.readAll payload = .ok values := by
  -- Each value takes its own item from the front of the payload.
  induction values generalizing payload with
  | nil =>
    cases written
    exact readAll_nil
  | cons value values ih =>
    obtain ⟨item, back, itemMade, backWritten, rfl⟩ := writeAll_cons_eq_ok_iff.mp written
    rw [List.length_append] at bounded
    have found : Item.split? (item.write ++ back) = .ok (some (item, back)) :=
      Item.split?_eq_some_iff.mpr ⟨rfl, by omega⟩
    have first := lawful.ofItem_of_toItem itemMade (by omega)
    have others := ih backWritten (by omega)
    rw [readAll_of_split found, first, others]
    rfl

/-- Values that are read from a payload were written in their order. -/
theorem writeAll_of_readAll (lawful : codec.Lawful integers) {values : List α} {payload : Bytes}
    (read : codec.readAll payload = .ok values) : codec.writeAll values = .ok payload := by
  -- The recursion of the reader takes one item off the payload at a time.
  induction payload using readAll.induct generalizing values with
  | case1 payload error failed =>
    rw [readAll_of_split_error failed] at read
    cases read
  | case2 payload ended =>
    obtain rfl := Item.eq_nil_of_split ended
    rw [readAll_nil] at read
    cases read
    rfl
  | case3 payload item rest found ih =>
    rw [readAll_of_split found] at read
    obtain ⟨value, valueRead, afterValue⟩ := bind_eq_ok_iff.mp read
    obtain ⟨others, othersRead, made⟩ := bind_eq_ok_iff.mp afterValue
    cases made
    exact writeAll_cons_eq_ok_iff.mpr ⟨item, rest, lawful.toItem_of_ofItem valueRead,
      ih othersRead, (Item.split?_eq_some_iff.mp found).1⟩

/-- A value is written exactly when its item is made. -/
theorem Lawful.write_eq_error_iff (lawful : codec.Lawful integers) {value : α} {negative : Int} :
    codec.write value = .error (.negativeInteger negative) ↔
      firstNegative (integers value) = some negative := by
  -- Writing down an item cannot fail.
  rw [write, map_eq_error_iff, lawful.toItem_eq_error_iff]

/-- Writing several values fails with the first negative integer among all of theirs. -/
theorem writeAll_eq_error_iff (lawful : codec.Lawful integers) {values : List α}
    {negative : Int} :
    codec.writeAll values = .error (.negativeInteger negative) ↔
      firstNegative (values.flatMap integers) = some negative := by
  -- The values behind the first are written only if the first one has an item.
  induction values generalizing negative with
  | nil => simp [writeAll, firstNegative]
  | cons value values ih =>
    rw [List.flatMap_cons, writeAll]
    exact append_eq_error_iff lawful.write_eq_error_iff ih

/-- Lists of values hold the integers of their elements, in order. -/
theorem Lawful.list (lawful : codec.Lawful integers) :
    codec.list.Lawful fun values => values.flatMap integers where
  toItem_eq_error_iff := by
    intro values negative
    simp only [Codec.list, map_eq_error_iff]
    exact writeAll_eq_error_iff lawful
  ofItem_of_toItem {values item} written bounded := by
    obtain ⟨payload, payloadWritten, rfl⟩ := map_eq_ok_iff.mp written
    -- The payload is shorter than the list with its header.
    have inside := Item.length_payload_le payload
    exact readAll_of_writeAll lawful payloadWritten (by omega)
  toItem_of_ofItem {values item} read := by
    obtain ⟨payload, payloadRead, valuesRead⟩ := bind_eq_ok_iff.mp read
    obtain rfl := Item.payload_eq_ok_iff.mp payloadRead
    exact map_eq_ok_iff.mpr ⟨payload, writeAll_of_readAll lawful valuesRead, rfl⟩

end Codec

variable {codec : Codec α} {fields : Fields α} {others : Fields β}
variable {integers : α → List Int} {otherIntegers : β → List Int}

/-- No fields hold no integers. -/
theorem Fields.nil_lawful : Fields.nil.Lawful fun _ => [] where
  write_eq_error_iff := by simp [Fields.nil, firstNegative]
  read_of_write rest written _ := by
    -- Nothing is written, and nothing is taken off what follows.
    cases written
    rfl
  write_of_read read := by
    cases read
    exact ⟨[], rfl, rfl⟩

/-- A field in front of others holds its integers in front of theirs. -/
theorem Codec.Lawful.cons (lawful : codec.Lawful integers)
    (othersLawful : others.Lawful otherIntegers) :
    (Fields.cons codec others).Lawful fun value => integers value.1 ++ otherIntegers value.2 where
  write_eq_error_iff :=
    append_eq_error_iff lawful.write_eq_error_iff othersLawful.write_eq_error_iff
  read_of_write {value payload} rest written bounded := by
    obtain ⟨front, back, frontWritten, backWritten, rfl⟩ := append_eq_ok_iff.mp written
    obtain ⟨item, itemMade, rfl⟩ := map_eq_ok_iff.mp frontWritten
    rw [List.length_append] at bounded
    -- The item of the field is found in front of whatever the others have written.
    have found : Item.split? (item.write ++ (back ++ rest)) = .ok (some (item, back ++ rest)) :=
      Item.split?_eq_some_iff.mpr ⟨rfl, by omega⟩
    have first := lawful.ofItem_of_toItem itemMade (by omega)
    have behind := othersLawful.read_of_write rest backWritten (by omega)
    simp only [Fields.cons, List.append_assoc, found, first, behind, bind, Except.bind]
    rfl
  write_of_read {value payload rest} read := by
    obtain ⟨split, found, afterSplit⟩ := bind_eq_ok_iff.mp read
    cases split with
    | none => cases afterSplit
    | some pair =>
      obtain ⟨item, behind⟩ := pair
      obtain ⟨first, firstRead, afterFirst⟩ := bind_eq_ok_iff.mp afterSplit
      obtain ⟨⟨second, left⟩, secondRead, made⟩ := bind_eq_ok_iff.mp afterFirst
      cases made
      -- The rest is what the others were read from.
      obtain ⟨back, backWritten, rfl⟩ := othersLawful.write_of_read secondRead
      obtain ⟨rfl, -⟩ := Item.split?_eq_some_iff.mp found
      have frontWritten : codec.write first = .ok item.write :=
        map_eq_ok_iff.mpr ⟨item, lawful.toItem_of_ofItem firstRead, rfl⟩
      refine ⟨item.write ++ back, ?_, (List.append_assoc _ _ _).symm⟩
      exact append_eq_ok_iff.mpr ⟨item.write, back, frontWritten, backWritten, rfl⟩

/-- A record holds the integers of its fields. -/
theorem Fields.Lawful.record (lawful : fields.Lawful integers) {pack : α → β} {unpack : β → α}
    (packed : ∀ value, pack (unpack value) = value)
    (unpacked : ∀ value, unpack (pack value) = value) :
    (fields.record pack unpack).Lawful fun value => integers (unpack value) where
  toItem_eq_error_iff := by
    intro value negative
    simp only [Fields.record, map_eq_error_iff]
    exact lawful.write_eq_error_iff
  ofItem_of_toItem {value item} written bounded := by
    obtain ⟨payload, payloadWritten, rfl⟩ := map_eq_ok_iff.mp written
    have inside := Item.length_payload_le payload
    have read := lawful.read_of_write [] payloadWritten (by omega)
    rw [List.append_nil] at read
    simp only [Fields.record, Item.payload, read, bind, Except.bind]
    exact congrArg Except.ok (packed value)
  toItem_of_ofItem {value item} read := by
    obtain ⟨payload, payloadRead, afterPayload⟩ := bind_eq_ok_iff.mp read
    obtain rfl := Item.payload_eq_ok_iff.mp payloadRead
    obtain ⟨⟨fieldValues, left⟩, fieldsRead, ended⟩ := bind_eq_ok_iff.mp afterPayload
    obtain ⟨front, written, rfl⟩ := lawful.write_of_read fieldsRead
    -- Nothing may be left over, so the fields are the whole payload.
    cases left with
    | cons => cases ended
    | nil =>
      cases ended
      rw [List.append_nil]
      refine map_eq_ok_iff.mpr ⟨front, ?_, rfl⟩
      rw [unpacked]
      exact written

/-- The integers that a law speaks of may be listed in another way. -/
theorem Codec.Lawful.congr {listed : α → List Int} (lawful : codec.Lawful integers)
    (same : ∀ value, integers value = listed value) : codec.Lawful listed := by
  -- Functions that agree everywhere are equal.
  rw [← funext same]
  exact lawful

end Countersign.Rlp
