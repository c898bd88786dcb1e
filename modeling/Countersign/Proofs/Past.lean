import Mathlib.Data.List.Infix

/-! Laws of what happens: each event of a past is judged by what came before it. -/

namespace Countersign

variable {ε : Type} {law : List ε → ε → Prop} {past : List ε} {event : ε}

/-- A law holds of all that has happened, each event judged by what came before it. -/
def Always (law : List ε → ε → Prop) (past : List ε) : Prop :=
  ∀ earlier event, earlier ++ [event] <+: past → law earlier event

namespace Always

/-- Nothing that has not happened breaks a law. -/
theorem nil (law : List ε → ε → Prop) : Always law [] := by
  intro earlier event early
  -- There is no event to judge.
  simp at early

/-- A law that has always held goes on to hold if the next event keeps it. -/
theorem append (always : Always law past) (event : ε) (next : law past event) :
    Always law (past ++ [event]) := by
  -- The event that is judged is the new one, or it stands in the old past.
  intro earlier other early
  rcases List.prefix_concat_iff.mp early with same | before
  · obtain ⟨rfl, last⟩ := List.append_inj' same rfl
    cases last
    exact next
  · exact always earlier other before

/-- Every event of the past kept the law. -/
theorem of_mem (always : Always law past) (member : event ∈ past) :
    ∃ earlier, earlier ++ [event] <+: past ∧ law earlier event := by
  -- The past is cut behind the event.
  obtain ⟨earlier, later, rfl⟩ := List.append_of_mem member
  have early : earlier ++ [event] <+: earlier ++ event :: later := ⟨later, by simp⟩
  exact ⟨earlier, early, always earlier event early⟩

end Always

end Countersign
