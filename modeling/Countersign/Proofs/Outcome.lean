/-! Steps that may fail: what the outcome of a sequence says about each of its steps. -/

namespace Countersign

variable {ε α β : Type}

/-- A sequence succeeds exactly when both of its steps do. -/
theorem bind_eq_ok_iff {first : Except ε α} {next : α → Except ε β} {result : β} :
    (first >>= next) = .ok result ↔ ∃ value, first = .ok value ∧ next value = .ok result := by
  -- A failed first step leaves nothing to continue with.
  cases first <;> simp [bind, Except.bind]

/-- A changed result comes from a result before the change. -/
theorem map_eq_ok_iff {outcome : Except ε α} {change : α → β} {result : β} :
    outcome.map change = .ok result ↔ ∃ value, outcome = .ok value ∧ change value = result := by
  -- Errors stay errors.
  cases outcome <;> simp [Except.map]

/-- Changing the result leaves every error as it is. -/
theorem map_eq_error_iff {outcome : Except ε α} {change : α → β} {error : ε} :
    outcome.map change = .error error ↔ outcome = .error error := by
  -- Results stay results.
  cases outcome <;> simp [Except.map]

/-- Rewording the errors leaves every result as it is. -/
theorem mapError_eq_ok_iff {ε' : Type} {outcome : Except ε α} {reword : ε → ε'} {result : α} :
    outcome.mapError reword = .ok result ↔ outcome = .ok result := by
  -- Errors stay errors.
  cases outcome with
  | error error =>
    constructor <;>
    · intro impossible
      cases impossible
  | ok value =>
    constructor <;>
    · intro same
      cases same
      rfl

/-- A reworded error comes from an error before the rewording. -/
theorem mapError_eq_error_iff {ε' : Type} {outcome : Except ε α} {reword : ε → ε'} {error : ε'} :
    outcome.mapError reword = .error error ↔
      ∃ cause, outcome = .error cause ∧ reword cause = error := by
  -- Results stay results.
  cases outcome with
  | error cause =>
    constructor
    · intro same
      cases same
      exact ⟨cause, rfl, rfl⟩
    · rintro ⟨_, same, rfl⟩
      cases same
      rfl
  | ok value =>
    constructor
    · intro impossible
      cases impossible
    · rintro ⟨_, impossible, -⟩
      cases impossible

/-- Two outcomes are both results, or both the same error. -/
def FailsAs (outcome : Except ε α) (other : Except ε β) : Prop :=
  ∀ error, outcome = .error error ↔ other = .error error

/-- A result that passes a test is a result. -/
theorem exists_of_any {outcome : Except ε α} {test : α → Bool}
    (passed : outcome.toOption.any test = true) :
    ∃ value, outcome = .ok value ∧ test value = true := by
  -- An error passes no test.
  cases outcome with
  | error error => cases passed
  | ok value => exact ⟨value, rfl, passed⟩

end Countersign
