import Countersign.Text.Parts
import Mathlib.Data.List.Basic

/-! A sequence and its parts between separators determine one another; so do a sequence and its
front, and runs are no longer than the longest one. -/

namespace Countersign.Text

variable {separator : Char} {chars first rest : List Char} {others : List (List Char)}

/-- Without a separator there is one part. -/
theorem parts_of_not_mem (free : separator ∉ chars) : parts separator chars = [chars] := by
  induction chars with
  | nil => rfl
  -- The first character goes to the part that follows it.
  | cons char rest ih =>
    obtain ⟨apart, free⟩ := not_or.mp (mt List.mem_cons.mpr free)
    rw [parts, if_neg (Ne.symm apart), ih free]

/-- The first part ends at the first separator. -/
theorem parts_append_cons (free : separator ∉ first) :
    parts separator (first ++ separator :: rest) = first :: parts separator rest := by
  -- On the part: its end is the separator, where the others begin.
  induction first with
  | nil => rw [List.nil_append, parts, if_pos rfl]
  | cons char others ih =>
    obtain ⟨apart, free⟩ := not_or.mp (mt List.mem_cons.mpr free)
    rw [List.cons_append, parts, if_neg (Ne.symm apart), ih free]

/-- Parts with separators between them are cut where they were joined. -/
theorem parts_append_flatMap (free : separator ∉ first)
    (allFree : ∀ part ∈ others, separator ∉ part) :
    parts separator (first ++ others.flatMap (separator :: ·)) = first :: others := by
  -- The first part changes with each step, since the next one takes its place.
  induction others generalizing first with
  | nil => rw [List.flatMap_nil, List.append_nil, parts_of_not_mem free]
  | cons second others ih =>
    obtain ⟨freeSecond, free_others⟩ := List.forall_mem_cons.mp allFree
    rw [List.flatMap_cons, List.cons_append, parts_append_cons free, ih freeSecond free_others]

/-- Every sequence is parts with separators between them. -/
theorem exists_parts (separator : Char) (chars : List Char) :
    ∃ (first : List Char) (others : List (List Char)), separator ∉ first ∧
      (∀ part ∈ others, separator ∉ part) ∧ chars = first ++ others.flatMap (separator :: ·) := by
  -- A separator opens a part, and any other character prolongs the first one.
  induction chars with
  | nil => exact ⟨[], [], by simp, by simp, rfl⟩
  | cons char rest ih =>
    obtain ⟨first, others, free, allFree, rfl⟩ := ih
    by_cases same : separator = char
    · exact ⟨[], first :: others, by simp, List.forall_mem_cons.mpr ⟨free, allFree⟩, by simp [same]⟩
    · exact ⟨char :: first, others, by simp [same, free], allFree, rfl⟩

/-- The parts are the ones that hold no separator and give the text with one between any two. -/
theorem parts_eq_cons_iff : parts separator chars = first :: others ↔
    separator ∉ first ∧ (∀ part ∈ others, separator ∉ part) ∧
      chars = first ++ others.flatMap (separator :: ·) := by
  constructor
  · intro parted
    -- Some such parts exist, and cutting finds them again.
    obtain ⟨head, tail, free, allFree, rfl⟩ := exists_parts separator chars
    rw [parts_append_flatMap free allFree] at parted
    cases parted
    exact ⟨free, allFree, rfl⟩
  · rintro ⟨free, allFree, rfl⟩
    exact parts_append_flatMap free allFree

/-! ### Fronts and runs -/

variable {char : Char} {p : Char → Bool}

/-- What is taken ends where something else begins. -/
theorem takeWhile_front (all : ∀ char ∈ first, p char = true)
    (ends : ∀ char ∈ rest.head?, p char = false) : (first ++ rest).takeWhile p = first := by
  -- The front is taken as a whole, and nothing of the rest is.
  rw [List.takeWhile_append_of_pos all]
  cases rest with
  | nil => simp
  | cons char behind => simp [ends char rfl]

/-- What is dropped ends where something else begins. -/
theorem dropWhile_front (all : ∀ char ∈ first, p char = true)
    (ends : ∀ char ∈ rest.head?, p char = false) : (first ++ rest).dropWhile p = rest := by
  -- The front is dropped as a whole, and nothing of the rest is.
  rw [List.dropWhile_append_of_pos all]
  cases rest with
  | nil => simp
  | cons char behind => simp [ends char rfl]

/-- The length of the current run and that of the longest one, with one more character. -/
def growRun (char : Char) (state : Nat × Nat) (other : Char) : Nat × Nat :=
  let run := if other = char then state.1 + 1 else 0
  (run, max state.2 run)

/-- The longest run does not become shorter. -/
theorem le_foldl_growRun (state : Nat × Nat) (text : List Char) :
    state.2 ≤ (text.foldl (growRun char) state).2 := by
  induction text generalizing state with
  | nil => exact Nat.le_refl _
  -- A step takes the larger of two lengths, one of which is the longest so far.
  | cons other rest ih => exact Nat.le_trans (Nat.le_max_left _ _) (ih (growRun char state other))

/-- Longer runs so far make the longest run no shorter. -/
theorem foldl_growRun_mono {state other : Nat × Nat} (run : state.1 ≤ other.1)
    (longest : state.2 ≤ other.2) (text : List Char) :
    (text.foldl (growRun char) state).2 ≤ (text.foldl (growRun char) other).2 := by
  induction text generalizing state other with
  | nil => exact longest
  | cons next rest ih =>
    -- Both runs go on or both begin again, since they see the same character.
    have grown : (growRun char state next).1 ≤ (growRun char other next).1 := by
      simp only [growRun]
      split <;> omega
    have longer : (growRun char state next).2 ≤ (growRun char other next).2 := by
      simp only [growRun] at grown ⊢
      omega
    exact ih grown longer

/-- A run in front prolongs the current one. -/
theorem add_length_takeWhile_le (char : Char) {state : Nat × Nat} (known : state.1 ≤ state.2)
    (text : List Char) :
    state.1 + (text.takeWhile (· = char)).length ≤ (text.foldl (growRun char) state).2 := by
  induction text generalizing state with
  | nil => exact known
  | cons other rest ih =>
    -- Either the current run goes on, or it has ended already.
    by_cases same : other = char
    · have grown : (growRun char state other).1 ≤ (growRun char state other).2 :=
        Nat.le_max_right _ _
      have longer := ih grown
      have run : (growRun char state other).1 = state.1 + 1 := if_pos same
      rw [List.takeWhile_cons_of_pos (by simpa using same), List.length_cons]
      rw [run] at longer
      rw [List.foldl_cons]
      omega
    -- Nothing is taken, and the current run is no longer than the longest.
    · rw [List.takeWhile_cons_of_neg (by simpa using same)]
      exact Nat.le_trans known (le_foldl_growRun state (other :: rest))

/-- The run in front of a sequence is no longer than the longest one. -/
theorem length_takeWhile_le_longestRun (char : Char) (text : List Char) :
    (text.takeWhile (· = char)).length ≤ longestRun char text := by
  -- There is no current run at the start.
  have longer := add_length_takeWhile_le char (show (0, 0).1 ≤ (0, 0).2 from Nat.le_refl 0) text
  rwa [Nat.zero_add] at longer

/-- A character in front makes the longest run no shorter. -/
theorem longestRun_le_cons (char other : Char) (text : List Char) :
    longestRun char text ≤ longestRun char (other :: text) :=
  -- Behind that character both lengths are at least zero.
  foldl_growRun_mono (Nat.zero_le _) (Nat.zero_le _) text

/-- A character that has no run does not occur. -/
theorem not_mem_of_longestRun {text : List Char} (none : longestRun char text = 0) :
    char ∉ text := by
  induction text with
  | nil => exact List.not_mem_nil
  | cons other rest ih =>
    have front := length_takeWhile_le_longestRun char (other :: rest)
    have tail := longestRun_le_cons char other rest
    intro member
    rcases List.mem_cons.mp member with rfl | behind
    -- At the front it would be a run of its own.
    · rw [List.takeWhile_cons_of_pos (by simp), List.length_cons] at front
      omega
    · exact ih (by omega) behind

end Countersign.Text
