import Countersign.Proofs.Rlp.Reader
import Mathlib.Algebra.Group.Int.Defs

/-! Integers of a fixed width and integers of any size: one written form for each number, and reads
that differ only where a number is too large for a width. -/

namespace Countersign

/-- Octets without a leading zero are no more than the digits of a bounded number exactly when
their number has that bound. -/
theorem Bytes.length_le_iff {bytes : Bytes} {width : Nat} (minimal : bytes.head? ≠ some 0) :
    bytes.length ≤ width ↔ toNat bytes < 256 ^ width := by
  constructor
  · intro short
    calc toNat bytes < 256 ^ bytes.length := toNat_lt bytes
      _ ≤ 256 ^ width := Nat.pow_le_pow_right (by omega) short
  · intro small
    -- The octets are the shortest ones of their number.
    rw [← ofNat_toNat minimal]
    exact length_ofNat_le small

namespace Rlp

variable {α β : Type}

/-- One read gives what a wider one gives as long as that is below a bound. Larger numbers are
refused, and where the wider read fails the error is the same. Both move the cursor alike. -/
structure Narrows (narrow : Reader α) (wide : Reader β) (widen : α → β) (number : β → Int)
    (bound : Int) : Prop where
  /-- The wider read ends. -/
  ends : ∀ cursor : Cursor, ∃ outcome behind, wide.runAt cursor = some (outcome, behind)
  /-- A value is read exactly when the wider read gives it and it is below the bound. -/
  ok_iff : ∀ {cursor behind : Cursor} {whole : β},
    (∃ value, widen value = whole ∧ narrow.runAt cursor = some (.ok value, behind)) ↔
      wide.runAt cursor = some (.ok whole, behind) ∧ number whole < bound
  /-- A larger number is refused. -/
  overflow : ∀ {cursor behind : Cursor} {whole : β},
    wide.runAt cursor = some (.ok whole, behind) → bound ≤ number whole →
      narrow.runAt cursor = some (.error .integerOverflow, behind)
  /-- An error of the wider read is that of the other. -/
  error : ∀ {cursor behind : Cursor} {error : DecodeError},
    wide.runAt cursor = some (.error error, behind) →
      narrow.runAt cursor = some (.error error, behind)

/-- Reads of one item are related as their judgements of it are. -/
theorem Narrows.of_passes {narrow : Reader α} {wide : Reader β} {widen : α → β} {number : β → Int}
    {bound : Int} {judge : Item → Except DecodeError α} {judgeWide : Item → Except DecodeError β}
    (cast : β → α) (narrowPasses : narrow.Passes judge) (widePasses : wide.Passes judgeWide)
    (judged : ∀ item, judge item = judgeWide item >>= fun whole =>
      if number whole < bound then .ok (cast whole) else .error .integerOverflow)
    (widened : ∀ item whole, judgeWide item = .ok whole → number whole < bound →
      widen (cast whole) = whole) :
    Narrows narrow wide widen number bound where
  ends cursor := by
    rw [widePasses]
    exact ⟨_, _, rfl⟩
  ok_iff {cursor behind whole} := by
    rw [widePasses.runAt_eq_ok_iff]
    constructor
    · intro given
      obtain ⟨value, rfl, read⟩ := given
      obtain ⟨item, found, valueRead⟩ := narrowPasses.runAt_eq_ok_iff.mp read
      rw [judged] at valueRead
      obtain ⟨whole, wholeRead, checked⟩ := bind_eq_ok_iff.mp valueRead
      -- The wider value is there, and it is below the bound.
      split at checked
      · rename_i below
        cases checked
        rw [widened item whole wholeRead below]
        exact ⟨⟨item, found, wholeRead⟩, below⟩
      · cases checked
    · intro given
      obtain ⟨⟨item, found, wholeRead⟩, below⟩ := given
      refine ⟨cast whole, widened item whole wholeRead below, ?_⟩
      refine narrowPasses.runAt_eq_ok_iff.mpr ⟨item, found, ?_⟩
      rw [judged, wholeRead]
      exact if_pos below
  overflow {cursor behind whole} read large := by
    obtain ⟨item, found, wholeRead⟩ := widePasses.runAt_eq_ok_iff.mp read
    refine narrowPasses.runAt_eq_error_iff.mpr (.inr ⟨item, found, ?_⟩)
    rw [judged, wholeRead]
    exact if_neg (Int.not_lt.mpr large)
  error {cursor behind error} failed := by
    apply narrowPasses.runAt_eq_error_iff.mpr
    -- Either read stays where it is when there is no item.
    rcases widePasses.runAt_eq_error_iff.mp failed with stays | ⟨item, found, wholeFailed⟩
    · exact .inl stays
    · refine .inr ⟨item, found, ?_⟩
      rw [judged, wholeFailed]
      rfl

/-- An item is judged as an integer of sixty-four bits by what it is as an integer of any size. -/
theorem Codec.word64_ofItem_eq (item : Item) :
    word64.ofItem item = integer.ofItem item >>= fun whole =>
      if whole < 2 ^ 64 then .ok (UInt64.ofNat whole.toNat) else .error .integerOverflow := by
  cases item with
  | list payload => rfl
  | octets content =>
    simp only [word64, integer, Item.content, Bind.bind, Except.bind]
    cases judged : magnitude content with
    | error error => rfl
    | ok number =>
      obtain rfl := magnitude_eq_ok_iff.mp judged
      -- Without a leading zero, more than eight octets are as much as a larger number.
      have digits : (Bytes.ofNat number).length ≤ 8 ↔ number < 256 ^ 8 := by
        rw [Bytes.length_le_iff (Bytes.head?_ofNat number), Bytes.toNat_ofNat]
      simp only [pure, Except.pure]
      by_cases wide : 8 < (Bytes.ofNat number).length
      · rw [if_pos wide, if_neg (by rw [Int.ofNat_eq_natCast]; omega)]
        rfl
      · rw [if_neg wide, if_pos (by rw [Int.ofNat_eq_natCast]; omega)]
        rfl

/-- An item is judged as an integer of thirty-two bits by what it is with sixty-four. -/
theorem Codec.word32_ofItem_eq (item : Item) :
    word32.ofItem item = word64.ofItem item >>= fun whole =>
      if (whole.toNat : Int) < 2 ^ 32 then .ok whole.toUInt32 else .error .integerOverflow := by
  -- The bound is compared in natural numbers there and in integers here.
  have words : Nat.pow 2 32 = 2 ^ 32 := rfl
  simp only [word32, Bind.bind, Except.bind]
  cases word64.ofItem item with
  | error error => simp only
  | ok whole =>
    simp only
    by_cases large : Nat.pow 2 32 ≤ whole.toNat
    · rw [if_pos large, if_neg (by omega)]
      rfl
    · rw [if_neg large, if_pos (by omega)]
      rfl

/-- Integers of sixty-four bits are those of any size below their bound. -/
theorem Reader.word64_narrows :
    Narrows word64 integer (fun value => (value.toNat : Int)) id (2 ^ 64) := by
  refine .of_passes (fun whole => UInt64.ofNat whole.toNat) word64_passes integer_passes
    Codec.word64_ofItem_eq ?_
  -- Below the bound a number is that of its word.
  intro item whole read below
  obtain ⟨content, -, afterContent⟩ := bind_eq_ok_iff.mp read
  obtain ⟨number, -, made⟩ := bind_eq_ok_iff.mp afterContent
  cases made
  change (number : Int) < 2 ^ 64 at below
  change ((UInt64.ofNat number).toNat : Int) = number
  rw [UInt64.toNat_ofNat_of_lt' (by change number < 2 ^ 64; omega)]

/-- Integers of thirty-two bits are those of sixty-four bits below their bound. -/
theorem Reader.word32_narrows :
    Narrows word32 word64 UInt32.toUInt64 (fun value => value.toNat) (2 ^ 32) := by
  refine .of_passes UInt64.toUInt32 word32_passes word64_passes Codec.word32_ofItem_eq ?_
  intro item whole read below
  -- Below the bound cutting a word to half its width changes nothing.
  rw [← UInt64.toNat_inj, UInt32.toNat_toUInt64, UInt64.toNat_toUInt32]
  omega

/-- The octets of a word have a written form whose length a word can say. -/
theorem length_write_word_lt (value : UInt64) :
    (Item.octets (Bytes.ofNat value.toNat)).write.length < 2 ^ 64 := by
  -- There are eight octets at most.
  have few : (Bytes.ofNat value.toNat).length ≤ 8 := Bytes.length_ofNat_le value.toNat_lt
  exact Words.length_write_octets_lt (by omega)

/-- A word is written as the string of the octets of its number. -/
theorem Words.writeWord_eq (value : UInt64) :
    writeWord value = some (Item.octets (Bytes.ofNat value.toNat)).write := by
  -- The shortest octets are found word by word, and then written as any string is.
  rw [writeWord, shortest_eq]
  exact write_eq (length_write_word_lt value)

/-- An integer that a word holds is written as the string of the same octets. -/
theorem Words.writeInteger_eq (value : UInt64) :
    (writeInteger value.toNat).run =
      some (.ok (Item.octets (Bytes.ofNat value.toNat)).write) := by
  have written := write_eq (length_write_word_lt value)
  have natural : ¬ (value.toNat : Int) < 0 := by omega
  -- The magnitude of zero has an octet that the number does not have.
  by_cases zero : value.toNat = 0
  · rw [zero, Bytes.ofNat_zero] at written
    rw [zero, Bytes.ofNat_zero, writeInteger]
    exact congrArg (Option.map Except.ok) written
  · have same : magnitude (value.toNat : Int).natAbs = Bytes.ofNat value.toNat := by
      rw [Int.natAbs_natCast, magnitude, if_neg zero]
    have nonzero : ¬ (value.toNat : Int) = 0 := by omega
    rw [writeInteger]
    simp only [if_neg natural, if_neg nonzero, same, written]
    rfl

/-- The two writers of integers agree on every word: both write the string of the fewest octets that
have its number. The readers agree as far as their widths go, at every cursor and on every error. -/
theorem integer_codecs_agree :
    (∀ value : UInt64, ∃ digits : Bytes, Bytes.toNat digits = value.toNat ∧
      (∀ other, Bytes.toNat other = value.toNat → digits.length ≤ other.length) ∧
      Words.writeWord value = some (Item.octets digits).write ∧
      (Words.writeInteger value.toNat).run = some (.ok (Item.octets digits).write) ∧
      Codec.word64.write value = .ok (Item.octets digits).write ∧
      Codec.integer.write value.toNat = .ok (Item.octets digits).write) ∧
    Narrows Reader.word64 Reader.integer (fun value => (value.toNat : Int)) id (2 ^ 64) ∧
    Narrows Reader.word32 Reader.word64 UInt32.toUInt64 (fun value => value.toNat) (2 ^ 32) := by
  refine ⟨?_, Reader.word64_narrows, Reader.word32_narrows⟩
  intro value
  refine ⟨Bytes.ofNat value.toNat, Bytes.toNat_ofNat _, ?_, Words.writeWord_eq value,
    Words.writeInteger_eq value, rfl, ?_⟩
  · -- As many octets as the others are hold any number that those have.
    intro other same
    apply Bytes.length_ofNat_le
    rw [← same]
    exact Bytes.toNat_lt other
  · have natural : ¬ (value.toNat : Int) < 0 := by omega
    simp only [Codec.write, Codec.integer, if_neg natural]
    rfl

/-- A number of two octets has one written form, and the first numbers beyond sixty-four bits and
beyond thirty-two are refused where the wider reads give them. -/
theorem integer_codecs_agree_boundary :
    Words.writeWord 0x0100 = some [0x82, 0x01, 0x00] ∧
      (Words.writeInteger 0x0100).run = some (.ok [0x82, 0x01, 0x00]) ∧
      Reader.word64.runAt ⟨[0x89, 0x01, 0, 0, 0, 0, 0, 0, 0, 0, 0x07], true⟩ =
        some (.error .integerOverflow, ⟨[0x07], true⟩) ∧
      Reader.word32.runAt ⟨[0x85, 0x01, 0, 0, 0, 0], false⟩ =
        some (.error .integerOverflow, ⟨[], false⟩) := by
  obtain ⟨writers, word64Narrows, word32Narrows⟩ := integer_codecs_agree
  obtain ⟨digits, -, -, word, integer, wordWrite, -⟩ := writers 0x0100
  -- The digits are not known, but their written form is computed.
  have form : (Item.octets digits).write = [0x82, 0x01, 0x00] :=
    (Except.ok.inj wordWrite).symm.trans (by decide +kernel)
  rw [form] at word integer
  -- The wider reads succeed on these, and the narrower ones follow.
  have large : Reader.integer.runAt ⟨[0x89, 0x01, 0, 0, 0, 0, 0, 0, 0, 0, 0x07], true⟩ =
      some (.ok (2 ^ 64), ⟨[0x07], true⟩) :=
    Reader.integer_passes.runAt_eq_ok_iff.mpr
      ⟨.octets [0x01, 0, 0, 0, 0, 0, 0, 0, 0], rfl, by decide +kernel⟩
  have wide : Reader.word64.runAt ⟨[0x85, 0x01, 0, 0, 0, 0], false⟩ =
      some (.ok 0x0100000000, ⟨[], false⟩) :=
    Reader.word64_passes.runAt_eq_ok_iff.mpr
      ⟨.octets [0x01, 0, 0, 0, 0], rfl, by decide +kernel⟩
  exact ⟨word, integer, word64Narrows.overflow large (by decide),
    word32Narrows.overflow wide (by decide)⟩

end Rlp

end Countersign
