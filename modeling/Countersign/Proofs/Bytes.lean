import Countersign.Bytes
import Mathlib.Algebra.Group.Nat.Defs
import Mathlib.Data.List.Induction

/-! Octets as digits in base 256, and octets as texts: each reading undoes the other's writing. -/

namespace Countersign

namespace Bytes

/-- The octets of a positive number end with its lowest digit. -/
theorem ofNat_of_pos {value : Nat} (positive : 0 < value) :
    ofNat value = ofNat (value / 256) ++ [UInt8.ofNat (value % 256)] := by
  -- The digits are listed from the lowest one and then turned round.
  rw [ofNat, littleEndian, if_neg (by omega), List.reverse_cons, ofNat]

/-- Zero has no octets. -/
@[simp] theorem ofNat_zero : ofNat 0 = [] := by
  -- There is no digit to write.
  simp [ofNat, littleEndian]

/-- A number has no more digits than octets. -/
theorem toNat_lt (bytes : Bytes) : toNat bytes < 256 ^ bytes.length := by
  -- One octet more multiplies both sides by the base.
  induction bytes using List.reverseRecOn with
  | nil => simp [toNat]
  | append_singleton bytes octet ih =>
    have digit := octet.toNat_lt
    rw [toNat_append_singleton, List.length_append, List.length_singleton, Nat.pow_succ]
    omega

/-- Octets that do not begin with zero have a positive value. -/
theorem toNat_pos {octet : UInt8} (bytes : Bytes) (leading : octet ≠ 0) :
    0 < toNat (octet :: bytes) := by
  -- The first octet counts, and every octet behind it only raises the value.
  induction bytes using List.reverseRecOn with
  | nil =>
    have digit : octet.toNat ≠ 0 := fun zero => leading (UInt8.toNat_inj.mp zero)
    simpa [toNat] using Nat.pos_of_ne_zero digit
  | append_singleton bytes last ih =>
    rw [← List.cons_append, toNat_append_singleton]
    omega

/-- The octets of a number do not begin with zero. -/
theorem head?_ofNat (value : Nat) : (ofNat value).head? ≠ some 0 := by
  -- The highest digit is that of the last quotient that is not zero.
  induction value using Nat.strongRecOn with
  | ind value ih =>
    rcases Nat.eq_zero_or_pos value with rfl | positive
    · simp
    · rw [ofNat_of_pos positive]
      rcases Nat.eq_zero_or_pos (value / 256) with zero | higher
      · -- A single digit is the number itself.
        have small : value % 256 = value := by omega
        rw [zero, ofNat_zero, List.nil_append, List.head?_cons, small]
        intro same
        have := congrArg UInt8.toNat (Option.some.inj same)
        simp only [UInt8.toNat_ofNat', UInt8.toNat_zero] at this
        omega
      · have rest := ih (value / 256) (by omega)
        have filled : ofNat (value / 256) ≠ [] := by
          rw [ofNat_of_pos higher]
          simp
        rwa [List.head?_append, Option.or_of_isSome (List.isSome_head?.mpr filled)]

/-- Octets that do not begin with zero are those of their value. -/
theorem ofNat_toNat {bytes : Bytes} (minimal : bytes.head? ≠ some 0) :
    ofNat (toNat bytes) = bytes := by
  -- The last octet is the lowest digit, and those before it are minimal again.
  induction bytes using List.reverseRecOn with
  | nil => simp [toNat]
  | append_singleton bytes octet ih =>
    have digit := octet.toNat_lt
    rw [toNat_append_singleton]
    have positive : 0 < toNat bytes * 256 + octet.toNat := by
      rw [← toNat_append_singleton]
      cases whole : bytes ++ [octet] with
      | nil => simp at whole
      | cons first rest =>
        rw [whole, List.head?_cons] at minimal
        exact toNat_pos rest (fun zero => minimal (congrArg some zero))
    have quotient : (toNat bytes * 256 + octet.toNat) / 256 = toNat bytes := by omega
    have remainder : (toNat bytes * 256 + octet.toNat) % 256 = octet.toNat := by omega
    have before : bytes.head? ≠ some 0 := by
      cases bytes with
      | nil => simp
      | cons first rest => simpa using minimal
    rw [ofNat_of_pos positive, quotient, remainder, ih before, UInt8.ofNat_toNat]

/-- A number below a power of the base has at most as many octets as the exponent. -/
theorem length_ofNat_le {value width : Nat} (small : value < 256 ^ width) :
    (ofNat value).length ≤ width := by
  -- Each digit taken off lowers the exponent by one.
  induction width generalizing value with
  | zero =>
    have zero : value = 0 := by simpa using small
    simp [zero]
  | succ width ih =>
    rcases Nat.eq_zero_or_pos value with rfl | positive
    · simp
    · have quotient : value / 256 < 256 ^ width := by
        rw [Nat.div_lt_iff_lt_mul (by decide), ← Nat.pow_succ]
        exact small
      rw [ofNat_of_pos positive, List.length_append, List.length_singleton]
      have := ih quotient
      omega

/-- Octets in a fixed number of places end with the lowest digit. -/
theorem bigEndian_succ (width value : Nat) :
    bigEndian (width + 1) value = bigEndian width (value / 256) ++ [UInt8.ofNat (value % 256)] := by
  -- Every other digit stands one place lower in the quotient.
  have lower (place : Nat) : value / 256 ^ (place + 1) = value / 256 / 256 ^ place := by
    rw [Nat.div_div_eq_div_mul, Nat.pow_succ']
  simp [bigEndian, List.range_succ_eq_map, Function.comp_def, lower]

/-- Octets in enough places have the number as their value. -/
theorem toNat_bigEndian {width value : Nat} (small : value < 256 ^ width) :
    toNat (bigEndian width value) = value := by
  -- Each digit taken off lowers the exponent by one.
  induction width generalizing value with
  | zero =>
    have zero : value = 0 := by simpa using small
    rw [zero]
    rfl
  | succ width ih =>
    have quotient : value / 256 < 256 ^ width := by
      rw [Nat.div_lt_iff_lt_mul (by decide), ← Nat.pow_succ]
      exact small
    rw [bigEndian_succ, toNat_append_singleton, ih quotient, UInt8.toNat_ofNat']
    omega

/-- Parts of a sequence that they divide without a rest all have the same length. -/
theorem length_of_mem_chunks {size : Nat} {bytes part : Bytes} (whole : size ∣ bytes.length)
    (member : part ∈ chunks size bytes) : part.length = size := by
  -- What is left behind a part is divided without a rest again.
  induction bytes using chunks.induct size with
  | case1 bytes finished =>
    rw [chunks, if_pos finished] at member
    cases member
  | case2 bytes more ih =>
    rw [chunks, if_neg more] at member
    have filled : size ≤ bytes.length :=
      Nat.le_of_dvd (List.length_pos_iff.mpr fun empty => more (.inr empty)) whole
    rcases List.mem_cons.mp member with rfl | later
    · rw [List.length_take, Nat.min_eq_left filled]
    · refine ih ?_ later
      rw [List.length_drop]
      exact Nat.dvd_sub whole (Nat.dvd_refl size)

/-- A sequence of `count` parts is cut into that many. -/
theorem length_chunks {size count : Nat} (positive : 0 < size) {bytes : Bytes}
    (length : bytes.length = size * count) : (chunks size bytes).length = count := by
  -- One part fewer is left behind the first.
  induction count generalizing bytes with
  | zero =>
    rw [chunks, if_pos (.inr (List.length_eq_zero_iff.mp length)), List.length_nil]
  | succ count ih =>
    have more : ¬ (size = 0 ∨ bytes = []) := by
      rintro (zero | rfl)
      · omega
      · rw [List.length_nil, Nat.mul_succ] at length
        omega
    rw [chunks, if_neg more, List.length_cons, ih]
    rw [List.length_drop, length, Nat.mul_succ, Nat.add_sub_cancel]

/-- The octets of a text are read back as that text. -/
@[simp] theorem toText?_ofText (text : String) : toText? (ofText text) = some text := by
  -- The octets of a text are well-formed by its type.
  have valid : text.toByteArray.IsValidUTF8 := text.isValidUTF8
  simp [toText?, ofText, String.fromUTF8?, String.fromUTF8, valid]

/-- Octets that are read as a text are the octets of that text. -/
theorem ofText_of_toText? {bytes : Bytes} {text : String} (read : toText? bytes = some text) :
    ofText text = bytes := by
  -- Reading a text keeps its octets.
  unfold toText? String.fromUTF8? at read
  split at read
  · rw [← Option.some.inj read]
    simp [ofText, String.fromUTF8]
  · cases read

end Bytes

/-- Octets of the right number are those of a sequence of fixed length. -/
theorem FixedBytes.ofBytes?_eq_some_iff {size : Nat} {bytes : Bytes} {value : FixedBytes size} :
    FixedBytes.ofBytes? bytes = some value ↔ bytes = value.toBytes := by
  constructor
  · intro exact
    -- The test of the length is all that can fail.
    unfold ofBytes? at exact
    split at exact
    · rw [← Option.some.inj exact]
    · cases exact
  · rintro rfl
    simp [ofBytes?, value.length_toBytes]

end Countersign
