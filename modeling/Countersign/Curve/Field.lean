import Countersign.Bytes

/-! Arithmetic modulo the prime 2^255 - 19. -/

namespace Countersign.Curve

/-- The order of the field. -/
def prime : Nat := Nat.pow 2 255 - 19

/-- The prime is not zero, the zero being that of the literals. -/
instance : @NeZero Nat Zero.ofOfNat0 prime := ⟨Nat.ne_of_beq_eq_false rfl⟩

/-- The residues modulo the prime. -/
abbrev Field := Fin prime

namespace Field

/-- The residue of a natural number. -/
def ofNat (value : Nat) : Field := Fin.ofNat prime value

/-- A power, by squaring along the binary digits of the exponent. -/
def power (base : Field) (exponent : Nat) : Field :=
  -- Halving the exponent squares the power of the half.
  if exponent = 0 then 1
  else
    let half := power base (exponent / 2)
    if exponent % 2 = 0 then half * half else half * half * base

/-- The multiplicative inverse; zero has itself. -/
def inverse (value : Field) : Field := power value (prime - 2)

/-- A square root of minus one. -/
def rootOfMinusOne : Field := power 2 ((prime - 1) / 4)

/-- The even square root of a quotient, if the quotient is a square. -/
def rootOfQuotient? (numerator denominator : Field) : Option Field :=
  -- A candidate power is right up to a square root of minus one.
  let cube := denominator * denominator * denominator
  let seventh := cube * cube * denominator
  let candidate := numerator * cube * power (numerator * seventh) ((prime - 5) / 8)
  let check := denominator * candidate * candidate
  let even (root : Field) : Field := if root.val % 2 = 0 then root else -root
  if check = numerator then some (even candidate)
  else if check = -numerator then some (even (candidate * rootOfMinusOne))
  else none

end Field

end Countersign.Curve
