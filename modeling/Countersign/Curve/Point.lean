import Countersign.Curve.Field

/-! The twisted Edwards curve over that field: addition, multiples, and the octets of a point. -/

namespace Countersign.Curve

/-- The coefficient of the curve equation `y^2 - x^2 = 1 + d * x^2 * y^2`. -/
def coefficient : Field := -(Field.ofNat 121665) * Field.inverse (Field.ofNat 121666)

/-- A point in projective coordinates, with the product of the affine ones kept beside them. -/
structure Point where
  /-- The numerator of the first affine coordinate. -/
  x : Field
  /-- The numerator of the second affine coordinate. -/
  y : Field
  /-- The common denominator. -/
  z : Field
  /-- The numerator of the product of the affine coordinates. -/
  t : Field

namespace Point

/-- The neutral element. -/
def neutral : Point := ⟨0, 1, 1, 0⟩

/-- The point with the given affine coordinates. -/
def ofAffine (x y : Field) : Point := ⟨x, y, 1, x * y⟩

/-- The sum of two points; the formula is complete on this curve. -/
def add (left right : Point) : Point :=
  -- Both affine coordinates of the sum come out over one denominator.
  let a := (left.y - left.x) * (right.y - right.x)
  let b := (left.y + left.x) * (right.y + right.x)
  let c := 2 * left.t * right.t * coefficient
  let d := 2 * left.z * right.z
  let e := b - a
  let f := d - c
  let g := d + c
  let h := b + a
  ⟨e * f, g * h, f * g, e * h⟩

/-- The point with the first coordinate negated. -/
def negate (point : Point) : Point := ⟨-point.x, point.y, point.z, -point.t⟩

/-- A multiple, by doubling along the binary digits of the factor. -/
def multiply (factor : Nat) (point : Point) : Point :=
  -- Halving the factor doubles the multiple of the half.
  if factor = 0 then neutral
  else
    let half := multiply (factor / 2) point
    let twice := add half half
    if factor % 2 = 0 then twice else add twice point

/-- The point with a given second coordinate and a given parity of the first, if there is one. -/
def ofSecond? (y : Field) (odd : Bool) : Option Point :=
  -- Zero has no odd representative; asking for one still gives zero.
  (Field.rootOfQuotient? (y * y - 1) (coefficient * y * y + 1)).map fun root =>
    ofAffine (if odd then -root else root) y

/-- The base point: its second coordinate is four fifths, its first is even. -/
def base : Point :=
  -- The quotient is a square, so the default is never taken.
  (ofSecond? (4 * Field.inverse 5) false).getD neutral

/-- The octets of a point: the second coordinate, with the parity of the first in the top bit. -/
def toBytes (point : Point) : FixedBytes 32 :=
  -- Affine coordinates are the same for every representation of the point.
  let scale := Field.inverse point.z
  let x := point.x * scale
  let y := point.y * scale
  FixedBytes.leftJustified (Bytes.leastFirst 32 (y.val + Nat.pow 2 255 * (x.val % 2)))

/-- The point with the given octets, if they stand for one; coordinates are reduced. -/
def ofBytes? (bytes : FixedBytes 32) : Option Point :=
  -- The top bit is the parity, the others are the second coordinate.
  let value := Bytes.toNatLeastFirst bytes.toBytes
  ofSecond? (Field.ofNat (value % Nat.pow 2 255)) (decide (Nat.pow 2 255 ≤ value))

end Point

end Countersign.Curve
