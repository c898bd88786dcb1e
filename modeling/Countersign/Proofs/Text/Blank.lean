import Countersign.Proofs.Text.Digits
import Countersign.Text.Blank
import Mathlib.Data.List.DropRight

/-! Trimming takes off the blanks at both ends of a sequence and nothing else. -/

namespace Countersign.Text

/-- No blank stands at either end. -/
structure IsTrimmed (chars : List Char) : Prop where
  /-- The first character, if there is one, is not blank. -/
  front : ∀ first ∈ chars.head?, isBlank first = false
  /-- Nor is the last one. -/
  back : ∀ last ∈ chars.getLast?, isBlank last = false

variable {chars core before after : List Char}

/-- Blanks in front are dropped up to where the trimmed part begins. -/
theorem dropWhile_isBlank_append (blank : ∀ char ∈ before, isBlank char = true)
    (front : ∀ first ∈ core.head?, isBlank first = false) (filled : core ≠ []) (after : List Char) :
    (before ++ (core ++ after)).dropWhile isBlank = core ++ after := by
  apply dropWhile_front blank
  -- What follows the trimmed part does not matter, since it is not empty.
  rwa [List.head?_append_of_ne_nil _ filled]

/-- Blanks around a sequence without blanks at its ends are trimmed off. -/
theorem trim_append (trimmed : IsTrimmed core) (blankBefore : ∀ char ∈ before, isBlank char = true)
    (blankAfter : ∀ char ∈ after, isBlank char = true) :
    trim (before ++ core ++ after) = core := by
  by_cases filled : core = []
  · subst filled
    have all : (before ++ [] ++ after).dropWhile isBlank = [] := by
      simpa [List.dropWhile_eq_nil_iff, or_imp, forall_and] using ⟨blankBefore, blankAfter⟩
    rw [trim, all]
    rfl
  · -- The tail is trimmed as the head of the reversed sequence.
    have front := dropWhile_isBlank_append blankBefore trimmed.front filled after
    have blank : ∀ char ∈ after.reverse, isBlank char = true := by simpa using blankAfter
    have last : ∀ first ∈ core.reverse.head?, isBlank first = false := by simpa using trimmed.back
    have back := dropWhile_isBlank_append blank last (by simpa using filled) []
    rw [List.append_nil, ← List.reverse_append] at back
    rw [trim, List.append_assoc, front, back, List.reverse_reverse]

/-- What is trimmed already stays as it is. -/
theorem IsTrimmed.trim_eq (trimmed : IsTrimmed core) : trim core = core := by
  -- It is trimmed between no blanks and no blanks.
  have none : ∀ char ∈ [], isBlank char = true := fun _ member => absurd member List.not_mem_nil
  have trimmedOff := trim_append trimmed none none
  rwa [List.nil_append, List.append_nil] at trimmedOff

/-- A sequence without blanks has none at its ends. -/
theorem isTrimmed_of_solid (solid : ∀ char ∈ chars, isBlank char = false) : IsTrimmed chars where
  -- The ends are characters like all others.
  front first head := solid first (List.mem_of_head? head)
  back last ends := solid last (List.mem_of_getLast? ends)

/-- A digit is not blank. -/
theorem isBlank_of_isDigit : ∀ char, isDigit char = true → isBlank char = false := by
  -- There are ten digits, and each is compared with the blanks.
  decide

end Countersign.Text
