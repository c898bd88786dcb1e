import Countersign.Hash.Keccak

/-! Keccak-256 over a state held row by row: every lane is a field, so no step looks one up by its
place, and the digest of a fixed message is quick to compute. -/

namespace Countersign.Hash

namespace Keccak

/-- Five lanes side by side. -/
structure Row where
  (a b c d e : UInt64)

namespace Row

/-- The row in which all bits are clear. -/
def zero : Row := ⟨0, 0, 0, 0, 0⟩

/-- The exclusive or of two rows, column by column. -/
def xor (left right : Row) : Row :=
  ⟨left.a ^^^ right.a, left.b ^^^ right.b, left.c ^^^ right.c, left.d ^^^ right.d,
    left.e ^^^ right.e⟩

/-- What the lanes of each column take up when the columns have the given parities. -/
def shares (parities : Row) : Row :=
  ⟨parities.e ^^^ Word.rotateLeft parities.b 1, parities.a ^^^ Word.rotateLeft parities.c 1,
    parities.b ^^^ Word.rotateLeft parities.d 1, parities.c ^^^ Word.rotateLeft parities.e 1,
    parities.d ^^^ Word.rotateLeft parities.a 1⟩

/-- Every lane takes up a product of the two lanes after it. -/
def chi (row : Row) : Row :=
  ⟨row.a ^^^ (~~~row.b &&& row.c), row.b ^^^ (~~~row.c &&& row.d),
    row.c ^^^ (~~~row.d &&& row.e), row.d ^^^ (~~~row.e &&& row.a),
    row.e ^^^ (~~~row.a &&& row.b)⟩

end Row

/-- The five rows of a state. -/
structure Rows where
  (a b c d e : Row)

namespace Rows

/-- The state in which all bits are clear. -/
def zero : Rows := ⟨.zero, .zero, .zero, .zero, .zero⟩

/-- A step that treats the rows alike. -/
def map (step : Row → Row) (rows : Rows) : Rows :=
  ⟨step rows.a, step rows.b, step rows.c, step rows.d, step rows.e⟩

/-- The exclusive or of two states. -/
def xor (left right : Rows) : Rows :=
  ⟨left.a.xor right.a, left.b.xor right.b, left.c.xor right.c, left.d.xor right.d,
    left.e.xor right.e⟩

/-- The first lanes of a list in their places, and zero in the others. -/
def ofLanes (lanes : List UInt64) : Rows :=
  let lane (place : Nat) := lanes.getD place 0
  ⟨⟨lane 0, lane 1, lane 2, lane 3, lane 4⟩, ⟨lane 5, lane 6, lane 7, lane 8, lane 9⟩,
    ⟨lane 10, lane 11, lane 12, lane 13, lane 14⟩, ⟨lane 15, lane 16, lane 17, lane 18, lane 19⟩,
    ⟨lane 20, lane 21, lane 22, lane 23, lane 24⟩⟩

/-- Every lane takes up the parities of two neighbouring columns. -/
def theta (rows : Rows) : Rows :=
  -- The parities are taken before any lane changes.
  let shares := ((((rows.a.xor rows.b).xor rows.c).xor rows.d).xor rows.e).shares
  rows.map fun row => row.xor shares

open Word in
/-- Every lane is turned and moves to its place. -/
def rhoPi (rows : Rows) : Rows where
  a := ⟨rotateLeft rows.a.a 0, rotateLeft rows.b.b 44, rotateLeft rows.c.c 43,
    rotateLeft rows.d.d 21, rotateLeft rows.e.e 14⟩
  b := ⟨rotateLeft rows.a.d 28, rotateLeft rows.b.e 20, rotateLeft rows.c.a 3,
    rotateLeft rows.d.b 45, rotateLeft rows.e.c 61⟩
  c := ⟨rotateLeft rows.a.b 1, rotateLeft rows.b.c 6, rotateLeft rows.c.d 25,
    rotateLeft rows.d.e 8, rotateLeft rows.e.a 18⟩
  d := ⟨rotateLeft rows.a.e 27, rotateLeft rows.b.a 36, rotateLeft rows.c.b 10,
    rotateLeft rows.d.c 15, rotateLeft rows.e.d 56⟩
  e := ⟨rotateLeft rows.a.c 62, rotateLeft rows.b.d 55, rotateLeft rows.c.e 39,
    rotateLeft rows.d.a 41, rotateLeft rows.e.b 2⟩

/-- One round under its constant. -/
def round (rows : Rows) (constant : UInt64) : Rows :=
  let mixed := rows.theta.rhoPi.map Row.chi
  { mixed with a := { mixed.a with a := mixed.a.a ^^^ constant } }

/-- A block brought into the state, which is then permuted. -/
def absorb (rows : Rows) (block : Bytes) : Rows :=
  roundConstants.toList.foldl round (rows.xor (ofLanes (Word.ofBytesLeastFirst block)))

/-- The digest of a message. -/
def digest (message : Bytes) : FixedBytes 32 :=
  let first := ((Bytes.chunks rate (pad message)).foldl absorb zero).a
  FixedBytes.leftJustified ([first.a, first.b, first.c, first.d].flatMap fun lane =>
    Bytes.leastFirst 8 lane.toNat)

end Rows

/-- The lanes of a state row by row. -/
def State.rows (state : State) : Rows := .ofLanes state.toList

variable (state : State)

/-- The parities are taken up row by row. -/
theorem rows_theta : (theta state).rows = state.rows.theta := by
  -- Each lane is one of twenty-five closed terms on both sides.
  simp [State.rows, Rows.ofLanes, theta, parity, lane, Rows.theta, Rows.map, Row.xor, Row.shares]

/-- The turns and the lane permutation, lane by lane. -/
theorem rows_rhoPi : (rhoPi state).rows = state.rows.rhoPi := by
  -- The tables of turns and places are spelled out lane by lane.
  simp [State.rows, Rows.ofLanes, rhoPi, turns, Rows.rhoPi]

/-- The products are taken up within each row. -/
theorem rows_chi : (chi state).rows = state.rows.map Row.chi := by
  -- Every product is of lanes in one row.
  simp [State.rows, Rows.ofLanes, chi, lane, Rows.map, Row.chi]

/-- A round, row by row. -/
theorem rows_round (constant : UInt64) :
    (round state constant).rows = state.rows.round constant := by
  -- The steps before the constant are known; the constant goes into the first lane alone.
  rw [Rows.round, ← rows_theta, ← rows_rhoPi, ← rows_chi]
  simp [State.rows, Rows.ofLanes, round]

/-- All rounds, row by row. -/
theorem rows_permute :
    (permute state).rows = roundConstants.toList.foldl Rows.round state.rows := by
  -- Round by round, with the rows for the state.
  rw [permute, ← Array.foldl_toList]
  exact (List.foldl_hom State.rows fun state constant => (rows_round state constant).symm).symm

/-- A block is brought in row by row. -/
theorem rows_absorb (block : Bytes) : (absorb state block).rows = state.rows.absorb block := by
  rw [absorb, rows_permute, Rows.absorb]
  -- Before the permutation, the lanes of the block have gone into their places.
  simp [State.rows, Rows.ofLanes, Rows.xor, Row.xor]

/-- All blocks of a message are brought in row by row. -/
theorem rows_sponge (message : Bytes) :
    (sponge message).rows = (Bytes.chunks rate (pad message)).foldl Rows.absorb .zero := by
  have clear : State.rows (Vector.replicate 25 0) = .zero := by
    simp [State.rows, Rows.ofLanes, Rows.zero, Row.zero]
  -- Block by block, from a state of zeros.
  rw [sponge, ← clear]
  exact (List.foldl_hom State.rows fun state block => (rows_absorb state block).symm).symm

/-- The first four lanes of a state are those of its first row. -/
theorem take_toList : state.toList.take 4 =
    [state.rows.a.a, state.rows.a.b, state.rows.a.c, state.rows.a.d] := by
  -- A state has enough lanes for the four to be there.
  obtain ⟨⟨lanes⟩, size⟩ := state
  match lanes, size with
  | _ :: _ :: _ :: _ :: _, _ => rfl

end Keccak

/-- The digest of a message, row by row. -/
theorem keccak256_eq_digest (message : Bytes) :
    keccak256 message = Keccak.Rows.digest message := by
  -- The digest is written from the first four lanes after the last block.
  rw [keccak256, Keccak.Rows.digest, Keccak.take_toList, Keccak.rows_sponge]

end Countersign.Hash
