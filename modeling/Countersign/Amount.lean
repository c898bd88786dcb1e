/-! Balances in two independent units. -/

namespace Countersign

/-- A balance with a primary and a secondary component, either of which may be negative. -/
structure Amount where
  /-- Units of the primary kind. -/
  primary : Int
  /-- Units of the secondary kind. -/
  secondary : Int
  deriving DecidableEq, Repr

namespace Amount

/-- Nothing of either unit. -/
def zero : Amount := ⟨0, 0⟩

/-- An amount of the primary unit alone. -/
def ofPrimary (value : Int) : Amount := ⟨value, 0⟩

/-- An amount of the secondary unit alone. -/
def ofSecondary (value : Int) : Amount := ⟨0, value⟩

instance : Inhabited Amount := ⟨zero⟩

instance : Add Amount where
  -- The units never mix.
  add left right := ⟨left.primary + right.primary, left.secondary + right.secondary⟩

instance : Sub Amount where
  -- The units never mix.
  sub left right := ⟨left.primary - right.primary, left.secondary - right.secondary⟩

instance : Neg Amount where
  -- Both components change sign.
  neg amount := ⟨-amount.primary, -amount.secondary⟩

/-- Both components multiplied by one factor. -/
def scale (amount : Amount) (factor : Int) : Amount :=
  -- The factor applies to each unit alike.
  ⟨amount.primary * factor, amount.secondary * factor⟩

/-- Both components are zero. -/
def isZero (amount : Amount) : Bool := amount.primary == 0 && amount.secondary == 0

/-- Neither component is negative. -/
def isNonnegative (amount : Amount) : Bool :=
  -- Both units are tested on their own.
  decide (0 ≤ amount.primary) && decide (0 ≤ amount.secondary)

/-- Neither component is negative and one at least is not zero. -/
def isPositive (amount : Amount) : Bool := amount.isNonnegative && !amount.isZero

/-- Each component is at least the other amount's. -/
def isAtLeast (amount other : Amount) : Bool :=
  -- The order is componentwise, hence not total.
  decide (other.primary ≤ amount.primary) && decide (other.secondary ≤ amount.secondary)

/-- The amount in words. -/
def display (amount : Amount) : String :=
  -- Both components are always shown.
  toString amount.primary ++ " primary, " ++ toString amount.secondary ++ " secondary"

/-- The components in the order in which they are written. -/
def integers (amount : Amount) : List Int := [amount.primary, amount.secondary]

end Amount

end Countersign
