import Countersign.Proofs.Rlp.Faults
import Countersign.Rlp.Words

/-! Items in octets and words: no computation leaves its range, and what is computed is what items
are written as and read from. -/

namespace Countersign

namespace Bytes

/-- Octets in enough places are those of the number, behind zeros in the places left. -/
theorem bigEndian_eq {width value : Nat} (small : value < 256 ^ width) :
    bigEndian width value = zeros (width - (ofNat value).length) ++ ofNat value := by
  -- Each digit taken off lowers the exponent by one, until only zeros are left.
  induction width generalizing value with
  | zero =>
    have zero : value = 0 := by simpa using small
    subst zero
    simp [zeros, bigEndian]
  | succ width ih =>
    have quotient : value / 256 < 256 ^ width := by
      rw [Nat.div_lt_iff_lt_mul (by decide), ← Nat.pow_succ]
      exact small
    rw [bigEndian_succ, ih quotient]
    rcases Nat.eq_zero_or_pos value with rfl | positive
    · simp [zeros, List.replicate_succ']
    · rw [ofNat_of_pos positive, List.append_assoc, List.length_append, List.length_singleton,
        Nat.add_sub_add_right]

end Bytes

namespace Rlp.Words

/-- Eight zero bits in front of a word are one octet that its number does not have. -/
theorem length_ofNat_toNat (value : UInt64) :
    (Bytes.ofNat value.toNat).length = 8 - value.toBitVec.clz.toNat / 8 := by
  have bits : value.toBitVec.toNat = value.toNat := rfl
  have counted : value.toBitVec.clz.toNat ≤ 64 := BitVec.le_def.mp BitVec.clz_le
  have above := BitVec.toNat_lt_two_pow_sub_clz (x := value.toBitVec)
  rw [bits] at above
  apply Nat.le_antisymm
  · apply Bytes.length_ofNat_le
    calc value.toNat < 2 ^ (64 - value.toBitVec.clz.toNat) := above
      _ ≤ 2 ^ (8 * (8 - value.toBitVec.clz.toNat / 8)) := Nat.pow_le_pow_right (by omega) (by omega)
      _ = 256 ^ (8 - value.toBitVec.clz.toNat / 8) := by rw [Nat.pow_mul]
  · by_cases zero : value.toBitVec = 0
    · rw [BitVec.clz_eq_iff_eq_zero.mpr zero]
      simp
    · -- The leading one lies below the octets that the number has.
      have below := BitVec.two_pow_sub_clz_le_toNat_of_ne_zero (by omega) zero
      rw [bits] at below
      have within := Bytes.toNat_lt (Bytes.ofNat value.toNat)
      rw [Bytes.toNat_ofNat, show (256 : Nat) = 2 ^ 8 from rfl, ← Nat.pow_mul] at within
      have exponents := (Nat.pow_lt_pow_iff_right (by omega)).mp (Nat.lt_of_le_of_lt below within)
      omega

/-- The shortest octets of a word are those of its number. -/
theorem shortest_eq (value : UInt64) : shortest value = some (Bytes.ofNat value.toNat) := by
  have small : value.toNat < 256 ^ 8 := value.toNat_lt
  have short : (Bytes.ofNat value.toNat).length ≤ 8 := Bytes.length_ofNat_le small
  -- The leading zeros are counted in bits, but they are dropped in octets.
  have zeros : value.toBitVec.clz.toNat / 8 =
      (Bytes.zeros (8 - (Bytes.ofNat value.toNat).length)).length := by
    have := length_ofNat_toNat value
    have counted : value.toBitVec.clz.toNat ≤ 64 := BitVec.le_def.mp BitVec.clz_le
    simp only [Bytes.zeros, List.length_replicate]
    omega
  rw [shortest, behind, Bytes.bigEndian_eq small, zeros, if_pos (by simp), List.drop_left]

/-- A sum of octets below the limit has a result. -/
theorem addOctets_eq {left right : UInt8} (fits : left.toNat + right.toNat < 256) :
    addOctets left right = some (left + right) :=
  -- The limit is the one condition.
  if_pos fits

/-- A sum of words below the limit has a result. -/
theorem addWords_eq {left right : UInt64} (fits : left.toNat + right.toNat < 2 ^ 64) :
    addWords left right = some (left + right) :=
  -- The limit is the one condition.
  if_pos fits

/-- A difference of octets that is not below zero has a result. -/
theorem subOctets_eq {left right : UInt8} (above : right.toNat ≤ left.toNat) :
    subOctets left right = some (left - right) :=
  -- There is no other way below zero.
  if_pos above

/-- The header of a length that a word holds is computed without leaving the range of an octet. -/
theorem header_eq (base length : Nat) (fits : base + shortLimit + 8 < 256)
    (bounded : length < 2 ^ 64) :
    header (UInt8.ofNat base) (UInt64.ofNat length) = some (Rlp.header base length) := by
  have limit : shortLimit = 55 := rfl
  have word : (UInt64.ofNat length).toNat = length := UInt64.toNat_ofNat_of_lt' bounded
  have baseOctet : (UInt8.ofNat base).toNat = base :=
    UInt8.toNat_ofNat_of_lt' (by change _ < 256; omega)
  have short : UInt64.ofNat length ≤ UInt64.ofNat shortLimit ↔ length ≤ shortLimit := by
    rw [UInt64.le_iff_toNat_le, word]
    rfl
  rw [header, Rlp.header]
  by_cases small : length ≤ shortLimit
  · -- A short length loses nothing when it is cut down to an octet.
    have octet : (UInt64.ofNat length).toUInt8 = UInt8.ofNat length := by
      rw [← UInt8.toNat_inj, UInt64.toNat_toUInt8, word, UInt8.toNat_ofNat']
    have octetNat : (UInt8.ofNat length).toNat = length :=
      UInt8.toNat_ofNat_of_lt' (by change _ < 256; omega)
    rw [if_pos (short.mpr small), if_pos small, octet, addOctets_eq (by omega), UInt8.ofNat_add]
    rfl
  · -- Eight octets of a length are the most that are added to the base and the limit.
    obtain ⟨-, eight⟩ := length_ofNat_of_long (by omega) bounded
    have limitOctet : (UInt8.ofNat shortLimit).toNat = shortLimit := rfl
    have lead : (UInt8.ofNat (base + shortLimit)).toNat = base + shortLimit :=
      UInt8.toNat_ofNat_of_lt' (by change _ < 256; omega)
    have digits : (UInt8.ofNat (Bytes.ofNat length).length).toNat = (Bytes.ofNat length).length :=
      UInt8.toNat_ofNat_of_lt' (by change _ < 256; omega)
    rw [if_neg (fun long => small (short.mp long)), if_neg small, shortest_eq, word,
      addOctets_eq (by omega), ← UInt8.ofNat_add]
    simp only [bind, Option.bind]
    rw [addOctets_eq (by omega), ← UInt8.ofNat_add]
    rfl

/-- A header adds little to what is no longer than a sequence in memory can be. -/
theorem length_header_append_lt {base : Nat} {content : Bytes} (small : content.length < 2 ^ 63) :
    (Rlp.header base content.length ++ content).length < 2 ^ 64 := by
  rw [length_header_append]
  split
  -- A short header is one octet.
  · omega
  -- A long one has at most eight more, and twice the limit leaves room for them.
  · rename_i long
    obtain ⟨-, few⟩ := length_ofNat_of_long (Nat.not_le.mp long) (by omega)
    omega

/-- A string in memory has a written form whose length a word can say. -/
theorem length_write_octets_lt {content : Bytes} (small : content.length < 2 ^ 63) :
    (Item.octets content).write.length < 2 ^ 64 := by
  rcases Item.write_octets_cases content with ⟨octet, rfl, -, written⟩ | ⟨-, written⟩
  -- A small octet is its own item, and anything else has a header.
  · rw [written, List.length_singleton]
    omega
  · rw [written]
    exact length_header_append_lt small

/-- An item is written without leaving any range if a word can say how long its written form is. -/
theorem write_eq {item : Item} (bounded : item.write.length < 2 ^ 64) :
    write item = some item.write := by
  cases item with
  | octets content =>
    have inside := Item.length_content_le content
    -- The header is written in words, and needs only the length inside it.
    have headed := header_eq stringBase content.length (by decide) (by omega)
    rcases Item.write_octets_cases content with ⟨octet, rfl, own, written⟩ | ⟨alone, written⟩
    · have below : octet < UInt8.ofNat stringBase := UInt8.lt_iff_toNat_lt.mpr own
      rw [written]
      simp only [write, if_pos below]
      rfl
    · rw [written]
      -- The code tells a single octet from other strings by their length.
      match content, alone, headed with
      | [], _, headed => simp only [write, headed]; rfl
      | [octet], alone, headed =>
        have notBelow : ¬ octet < UInt8.ofNat stringBase := by
          have := alone octet rfl
          rw [UInt8.lt_iff_toNat_lt]
          exact Nat.not_lt.mpr this
        simp only [write, if_neg notBelow, headed]
        rfl
      | _ :: _ :: _, _, headed => simp only [write, headed]; rfl
  | list payload =>
    -- A list has a header in every case.
    have inside := Item.length_payload_le payload
    have headed := header_eq listBase payload.length (by decide) (by omega)
    rw [write, headed]
    rfl

/-- A part that begins behind some octets is what is cut off the data behind them. -/
theorem slice_append (front data : Bytes) (start length : UInt64)
    (placed : start.toNat = front.length) :
    slice (front ++ data) start length =
      (cut start.toNat length.toNat data).map Prod.fst := by
  rw [slice, cut]
  -- Both refuse an end beyond a word before they look at the data.
  by_cases fits : start.toNat + length.toNat < 2 ^ 64
  · have stop : (start + length).toNat = start.toNat + length.toNat := by
      rw [UInt64.toNat_add, Nat.mod_eq_of_lt fits]
    have within : ¬ Nat.pow 2 64 ≤ start.toNat + length.toNat := Nat.not_le.mpr fits
    rw [addWords_eq fits, if_neg within]
    simp only [stop, placed, List.length_append]
    by_cases enough : length.toNat ≤ data.length
    · rw [if_pos (by omega), if_neg (by omega), List.take_length_add_append, List.drop_left]
      rfl
    · rw [if_neg (by omega), if_pos (by omega)]
      rfl
  · have wraps : addWords start length = none := if_neg fits
    have beyond : Nat.pow 2 64 ≤ start.toNat + length.toNat := Nat.not_lt.mp fits
    rw [wraps, if_pos beyond]
    rfl

/-- A part that begins behind the lead octet is what is cut off there. -/
theorem slice_cons (lead : UInt8) (tail : Bytes) (length : UInt64) :
    slice (lead :: tail) 1 length = (cut 1 length.toNat tail).map Prod.fst :=
  -- One octet stands before the part.
  slice_append [lead] tail 1 length rfl

/-- Up to eight octets are shifted into a word without losing any. -/
theorem toNat_ofBytes {bytes : Bytes} (few : bytes.length ≤ 8) :
    (ofBytes bytes).toNat = Bytes.toNat bytes := by
  -- The last octet fills the eight zero bits that the shift leaves.
  induction bytes using List.reverseRecOn with
  | nil => rfl
  | append_singleton bytes octet ih =>
    rw [List.length_append, List.length_singleton] at few
    have before := ih (by omega)
    have digit := octet.toNat_lt
    have room : Bytes.toNat bytes * 256 < 2 ^ 64 := by
      have within := Bytes.toNat_lt bytes
      have power : 256 ^ bytes.length ≤ 256 ^ 7 := Nat.pow_le_pow_right (by omega) (by omega)
      omega
    have shifted : (ofBytes bytes <<< 8).toNat = 2 ^ 8 * Bytes.toNat bytes := by
      rw [UInt64.toNat_shiftLeft, before]
      change (Bytes.toNat bytes <<< 8) % 2 ^ 64 = _
      rw [Nat.shiftLeft_eq, Nat.mod_eq_of_lt (by omega), Nat.mul_comm]
    have appended : ofBytes (bytes ++ [octet]) = ofBytes bytes <<< 8 ||| octet.toUInt64 := by
      simp [ofBytes]
    rw [appended, UInt64.toNat_or, shifted, UInt8.toNat_toUInt64,
      ← Nat.two_pow_add_eq_or_of_lt digit, Bytes.toNat_append_singleton]
    omega

variable {α : Type}

/-- A computation finds what a reader finds at the front of some data, and counts the octets up to
what follows it. -/
def Counts (data : Bytes) (found : ExceptT DecodeError Option (α × UInt64)) :
    Except DecodeError (α × Bytes) → Prop
  | .error error => found.run = some (.error error)
  | .ok (value, rest) =>
    ∃ consumed, found.run = some (.ok (value, consumed)) ∧ behind consumed.toNat data = some rest

/-- What is cut off behind some octets ends within a word, and the rest stands behind its end. -/
theorem behind_of_cut (front data : Bytes) {part rest : Bytes} (start length : UInt64)
    (placed : start.toNat = front.length)
    (found : cut start.toNat length.toNat data = .ok (part, rest)) :
    addWords start length = some (start + length) ∧
      behind (start + length).toNat (front ++ data) = some rest := by
  obtain ⟨bounded, partLength, rfl⟩ := cut_eq_ok_iff.mp found
  -- Cutting off has tested the sum, so adding does not leave the range.
  have stop : (start + length).toNat = (front ++ part).length := by
    rw [UInt64.toNat_add, Nat.mod_eq_of_lt bounded, List.length_append, placed, partLength]
  refine ⟨addWords_eq bounded, ?_⟩
  rw [behind, stop, ← List.append_assoc, if_pos (by simp), List.drop_left]

/-- A part behind some octets is what is cut off there, and ends where the rest begins. -/
theorem content_counts (front data : Bytes) (start length : UInt64)
    (placed : start.toNat = front.length) :
    Counts (front ++ data)
      (do
        let content ← slice (front ++ data) start length
        return (content, ← addWords start length))
      (cut start.toNat length.toNat data) := by
  rw [slice_append front data start length placed]
  -- Both find the same part, or fail in the same way.
  cases found : cut start.toNat length.toNat data with
  | error error => rfl
  | ok parts =>
    -- Found there, it ends at the sum of where it starts and how long it is.
    obtain ⟨counted, rest⟩ := behind_of_cut front data start length placed found
    rw [counted]
    exact ⟨start + length, rfl, rest⟩

/-- The length behind a lead octet is that of the digits that are cut off, if it may stand there. -/
theorem longLength_eq {lead width : UInt8} {digits after : Bytes} (few : width.toNat ≤ 8)
    (digitsLength : digits.length = width.toNat) :
    longLength (lead :: (digits ++ after)) width =
      if digits.head? = some 0 ∨ Bytes.toNat digits ≤ shortLimit then .error .nonCanonicalSize
      else .ok (ofBytes digits) := by
  -- The digits are read again from the whole data.
  have digitsSlice : slice (lead :: (digits ++ after)) 1 width.toUInt64 = .ok digits := by
    have digitsCut : cut 1 width.toUInt64.toNat (digits ++ after) = .ok (digits, after) :=
      cut_eq_ok_iff.mpr ⟨by rw [UInt8.toNat_toUInt64]; omega, by simpa using digitsLength, rfl⟩
    rw [slice_cons, digitsCut]
    rfl
  -- There are at most eight digits, so their number fits into a word.
  have value : (ofBytes digits).toNat = Bytes.toNat digits := toNat_ofBytes (by omega)
  have short : ofBytes digits ≤ UInt64.ofNat shortLimit ↔ Bytes.toNat digits ≤ shortLimit := by
    rw [UInt64.le_iff_toNat_le, value]
    rfl
  -- The two conditions are tested one after the other there.
  simp only [longLength, digitsSlice, bind, Except.bind, short]
  by_cases zero : digits.head? = some 0
  · simp only [zero]
    rfl
  · by_cases small : Bytes.toNat digits ≤ shortLimit
    · simp only [zero, small]
      rfl
    · simp only [zero, small]
      rfl

/-- The content behind a long header is what the header cuts off. -/
theorem longContent_counts (lead : UInt8) {width : UInt8} (tail : Bytes) (few : width.toNat ≤ 8) :
    Counts (lead :: tail) (longContent (lead :: tail) width) (cutLong width.toNat tail) := by
  have wide : width.toUInt64.toNat = width.toNat := UInt8.toNat_toUInt64 width
  cases digitsCut : cut 1 width.toNat tail with
  | error error =>
    have digitsSlice := slice_cons lead tail width.toUInt64
    rw [wide, digitsCut] at digitsSlice
    simp only [longContent, longLength, digitsSlice, cutLong, digitsCut, bind, Except.bind]
    rfl
  | ok parts =>
    obtain ⟨digits, after⟩ := parts
    obtain ⟨-, digitsLength, rfl⟩ := cut_eq_ok_iff.mp digitsCut
    simp only [longContent, longLength_eq few digitsLength, cutLong, digitsCut, bind, Except.bind]
    by_cases zero : digits.head? = some 0
    · simp only [zero]
      rfl
    · by_cases small : Bytes.toNat digits ≤ shortLimit
      · simp only [zero, small]
        rfl
      · have value : (ofBytes digits).toNat = Bytes.toNat digits := toNat_ofBytes (by omega)
        -- The header takes at most nine octets, so the content starts within a word.
        have sum : 1 + width.toUInt64.toNat < 2 ^ 64 := by omega
        have start : (1 + width.toUInt64).toNat = 1 + width.toNat := by
          rw [UInt64.toNat_add, wide]
          exact Nat.mod_eq_of_lt (by change 1 + _ < _; omega)
        have counted := content_counts (lead :: digits) after (1 + width.toUInt64)
          (ofBytes digits) (by rw [start, List.length_cons, digitsLength]; omega)
        rw [start, value] at counted
        have added : addWords 1 width.toUInt64 = some (1 + width.toUInt64) := addWords_eq sum
        simp only [zero, small, added]
        exact counted

/-- Changing what is found leaves the count as it is. -/
theorem Counts.map {β : Type} {data : Bytes} {found : ExceptT DecodeError Option (α × UInt64)}
    {expected : Except DecodeError (α × Bytes)} (counted : Counts data found expected)
    (change : α → β) :
    Counts data (do let (value, consumed) ← found; return (change value, consumed))
      (expected.map fun (value, rest) => (change value, rest)) := by
  cases expected with
  -- A failure has no count, and a value keeps the one it has.
  | error error =>
    have failed : found = ExceptT.mk (some (.error error)) := counted
    rw [failed]
    rfl
  | ok pair =>
    obtain ⟨consumed, run, rest⟩ := counted
    have succeeded : found = ExceptT.mk (some (.ok (pair.1, consumed))) := run
    rw [succeeded]
    exact ⟨consumed, rfl, rest⟩

/-- A difference of octets is that of their numbers. -/
theorem toNat_sub_octets {left right : UInt8} (above : right.toNat ≤ left.toNat) :
    (left - right).toNat = left.toNat - right.toNat :=
  -- There is no wrapping above the right octet.
  UInt8.toNat_sub_of_le _ _ (UInt8.le_iff_toNat_le.mpr above)

/-- A computation goes on with a result that is there. -/
theorem some_bind {β : Type} (value : α) (next : α → ExceptT DecodeError Option β) :
    (liftM (some value) >>= next) = next value := rfl

/-- A computation goes on behind a step that does not fail. -/
theorem ok_bind {β : Type} (value : α) (next : α → ExceptT DecodeError Option β) :
    (liftM (Except.ok value : Except DecodeError α) >>= next) = next value := rfl

/-- A lead octet above its base declares a length, which a word holds as well. -/
theorem exists_declared {lead base : UInt8} (above : base.toNat ≤ lead.toNat) :
    ∃ octet, subOctets lead base = some octet ∧
      octet.toUInt64.toNat = lead.toNat - base.toNat := by
  -- An octet is widened as it is.
  refine ⟨lead - base, subOctets_eq above, ?_⟩
  rw [UInt8.toNat_toUInt64, toNat_sub_octets above]

/-- Behind a lead octet of a short string stands as much as it declares. -/
theorem first_shortString {lead : UInt8} (tail : Bytes) (low : 0x80 ≤ lead.toNat)
    (high : lead.toNat ≤ 0xB7) :
    Counts (lead :: tail) (first (lead :: tail) lead) (Item.splitLead lead tail) := by
  have above : (UInt8.ofNat stringBase).toNat ≤ lead.toNat := low
  obtain ⟨octet, difference, length⟩ := exists_declared above
  change octet.toUInt64.toNat = lead.toNat - 0x80 at length
  have notOwn : ¬ lead ≤ 0x7F := by
    rw [UInt8.le_iff_toNat_le]
    exact Nat.not_le.mpr low
  have single : octet.toUInt64 = 1 ↔ lead.toNat - 0x80 = 1 := by
    rw [← UInt64.toNat_inj, length]
    rfl
  have contentSlice := slice_cons lead tail octet.toUInt64
  rw [length] at contentSlice
  rw [first, if_neg notOwn, if_pos (UInt8.le_iff_toNat_le.mpr high)]
  simp only [difference, some_bind, contentSlice]
  cases found : cut 1 (lead.toNat - 0x80) tail with
  | error error =>
    rw [Item.splitLead_of_cut_error low high found]
    rfl
  | ok parts =>
    obtain ⟨content, rest⟩ := parts
    obtain ⟨-, contentLength, layout⟩ := cut_eq_ok_iff.mp found
    obtain ⟨counted, restBehind⟩ :=
      behind_of_cut [lead] tail 1 octet.toUInt64 rfl (by rw [length]; exact found)
    have accepted (headed : ∀ only, content = [only] → stringBase ≤ only.toNat) :=
      (Item.splitLead_shortString low high).mpr ⟨content, rfl, headed, contentLength, layout⟩
    simp only [Except.map, ok_bind, counted, some_bind, single, ← contentLength]
    -- Only a single octet is looked at, as it may have to stand alone.
    rcases content with _ | ⟨only, _ | ⟨second, others⟩⟩
    · rw [accepted (by simp)]
      exact ⟨_, rfl, restBehind⟩
    · simp only [List.length_singleton, ↓reduceIte, List.getElem?_cons_zero, some_bind,
        UInt8.lt_iff_toNat_lt]
      by_cases own : only.toNat < stringBase
      · rw [Item.splitLead_of_own low high found own]
        rw [if_pos (by exact own)]
        rfl
      · rw [accepted (by simpa using own), if_neg (by exact own)]
        exact ⟨_, rfl, restBehind⟩
    · rw [accepted (by simp)]
      exact ⟨_, rfl, restBehind⟩

/-- Behind a lead octet of a short list stands as much as it declares. -/
theorem first_shortList {lead : UInt8} (tail : Bytes) (low : 0xBF < lead.toNat)
    (high : lead.toNat ≤ 0xF7) :
    Counts (lead :: tail) (first (lead :: tail) lead) (Item.splitLead lead tail) := by
  have above : (UInt8.ofNat listBase).toNat ≤ lead.toNat := low
  obtain ⟨octet, difference, length⟩ := exists_declared above
  change octet.toUInt64.toNat = lead.toNat - 0xC0 at length
  have payloadSlice := slice_cons lead tail octet.toUInt64
  rw [length] at payloadSlice
  -- The first three ranges end below this lead octet.
  simp only [first, UInt8.le_iff_toNat_le, UInt8.reduceToNat]
  rw [if_neg (by omega), if_neg (by omega), if_neg (by omega), if_pos high,
    Item.splitLead_shortList_eq low high]
  simp only [difference, some_bind, payloadSlice]
  -- The payload is cut off behind the header, and the count is where it ends.
  cases found : cut 1 (lead.toNat - 0xC0) tail with
  | error error => rfl
  | ok parts =>
    obtain ⟨payload, rest⟩ := parts
    obtain ⟨counted, restBehind⟩ :=
      behind_of_cut [lead] tail 1 octet.toUInt64 rfl (by rw [length]; exact found)
    simp only [Except.map, ok_bind, counted, some_bind]
    exact ⟨_, rfl, restBehind⟩

/-- Two differences of octets are that of their numbers. -/
theorem exists_subOctets {lead base : UInt8} (above : base.toNat + shortLimit ≤ lead.toNat) :
    ∃ inside width, subOctets lead base = some inside ∧
      subOctets inside (UInt8.ofNat shortLimit) = some width ∧
      width.toNat = lead.toNat - (base.toNat + shortLimit) := by
  -- The base is taken off first, then the limit, and neither goes below zero.
  have limit : (UInt8.ofNat shortLimit).toNat = shortLimit := rfl
  have outer : base.toNat ≤ lead.toNat := by omega
  have inside := toNat_sub_octets outer
  have inner : (UInt8.ofNat shortLimit).toNat ≤ (lead - base).toNat := by omega
  have width := toNat_sub_octets inner
  exact ⟨lead - base, lead - base - UInt8.ofNat shortLimit, subOctets_eq outer,
    subOctets_eq inner, by omega⟩

/-- A computation finds the first item where the reader does, with the same errors. -/
theorem first_counts (lead : UInt8) (tail : Bytes) :
    Counts (lead :: tail) (first (lead :: tail) lead) (Item.splitLead lead tail) := by
  have octet := lead.toNat_lt
  -- Each range of the lead octet is one of the five forms.
  rcases Nat.lt_or_ge lead.toNat 0x80 with own | notOwn
  · have single : slice (lead :: tail) 0 1 = .ok [lead] := by
      have whole := slice_append [] (lead :: tail) 0 1 rfl
      simpa [cut, Except.map] using whole
    have low : lead ≤ 0x7F := UInt8.le_iff_toNat_le.mpr (Nat.le_of_lt_succ own)
    rw [Item.splitLead_own own, first, if_pos low, single]
    exact ⟨1, rfl, rfl⟩
  rcases Nat.lt_or_ge 0xB7 lead.toNat with notShortString | shortString
  · rcases Nat.lt_or_ge 0xBF lead.toNat with notLongString | longString
    · rcases Nat.lt_or_ge 0xF7 lead.toNat with longList | shortList
      · have above : (UInt8.ofNat listBase).toNat + shortLimit ≤ lead.toNat := Nat.le_of_lt longList
        obtain ⟨inside, width, insideFound, widthFound, value⟩ := exists_subOctets above
        change width.toNat = lead.toNat - 0xF7 at value
        have few : width.toNat ≤ 8 := by omega
        have counted := (longContent_counts lead tail few).map Item.list
        simp only [first, UInt8.le_iff_toNat_le, UInt8.reduceToNat]
        rw [if_neg (by omega), if_neg (by omega), if_neg (by omega), if_neg (by omega),
          Item.splitLead_longList_eq longList, ← value]
        simp only [insideFound, widthFound, some_bind]
        exact counted
      · exact first_shortList tail notLongString shortList
    · have above : (UInt8.ofNat stringBase).toNat + shortLimit ≤ lead.toNat :=
        Nat.le_of_lt notShortString
      obtain ⟨inside, width, insideFound, widthFound, value⟩ := exists_subOctets above
      change width.toNat = lead.toNat - 0xB7 at value
      have few : width.toNat ≤ 8 := by omega
      have counted := (longContent_counts lead tail few).map Item.octets
      simp only [first, UInt8.le_iff_toNat_le, UInt8.reduceToNat]
      rw [if_neg (by omega), if_neg (by omega), if_pos longString,
        Item.splitLead_longString_eq notShortString longString, ← value]
      simp only [insideFound, widthFound, some_bind]
      exact counted
  · exact first_shortString tail notOwn shortString

end Rlp.Words
end Countersign
