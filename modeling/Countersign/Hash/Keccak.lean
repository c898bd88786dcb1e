import Countersign.Hash.Word

/-! Keccak-256: a sponge over the 1600-bit permutation, with the padding that precedes SHA-3. -/

namespace Countersign.Hash.Keccak

/-- The twenty-five lanes of a state; lane `x + 5 * y` stands in column `x` of row `y`. -/
abbrev State := Vector UInt64 25

/-- How far each lane is turned to the left in a round. -/
def turns : Vector UInt64 25 :=
  -- Triangular numbers along the walk of the lane permutation.
  #v[0, 1, 62, 28, 27, 36, 44, 6, 55, 20, 3, 10, 43, 25, 39, 41, 45, 15, 21, 8, 18, 2, 61, 56, 14]

/-- The constants that set the rounds apart. -/
def roundConstants : Array UInt64 :=
  -- Seven output bits of a linear feedback register per round.
  #[
    0x0000000000000001, 0x0000000000008082, 0x800000000000808a, 0x8000000080008000,
    0x000000000000808b, 0x0000000080000001, 0x8000000080008081, 0x8000000000008009,
    0x000000000000008a, 0x0000000000000088, 0x0000000080008009, 0x000000008000000a,
    0x000000008000808b, 0x800000000000008b, 0x8000000000008089, 0x8000000000008003,
    0x8000000000008002, 0x8000000000000080, 0x000000000000800a, 0x800000008000000a,
    0x8000000080008081, 0x8000000000008080, 0x0000000080000001, 0x8000000080008008]

/-- The lane in a column and row, both taken modulo five. -/
def lane (state : State) (x y : Nat) : UInt64 :=
  -- Columns and rows wrap around.
  state[x % 5 + 5 * (y % 5)]

/-- The exclusive or of the five lanes of a column. -/
def parity (state : State) (x : Nat) : UInt64 :=
  -- One lane from each row.
  lane state x 0 ^^^ lane state x 1 ^^^ lane state x 2 ^^^ lane state x 3 ^^^ lane state x 4

/-- Every lane takes up the parities of two neighbouring columns. -/
def theta (state : State) : State :=
  -- The parities are taken before any lane changes.
  let parities := Vector.ofFn fun x : Fin 5 => parity state x.val
  let shares := Vector.ofFn fun x : Fin 5 =>
    parities[(x.val + 4) % 5] ^^^ Word.rotateLeft (parities[(x.val + 1) % 5]) 1
  Vector.ofFn fun i : Fin 25 => state[i.val] ^^^ shares[i.val % 5]

/-- Every lane is turned and moves to its place under the lane permutation. -/
def rhoPi (state : State) : State :=
  -- The lane that comes to column `x`, row `y` was in column `x + 3 * y`, row `x`.
  Vector.ofFn fun i : Fin 25 =>
    let x := i.val % 5
    let source := (x + 3 * (i.val / 5)) % 5 + 5 * x
    Word.rotateLeft (state[source]) (turns[source])

/-- Every lane takes up a product of the two lanes after it in its row. -/
def chi (state : State) : State :=
  -- This is the only step that is not linear.
  Vector.ofFn fun i : Fin 25 =>
    let y := i.val / 5
    state[i.val] ^^^ (~~~(lane state (i.val + 1) y) &&& lane state (i.val + 2) y)

/-- One round under its constant. -/
def round (state : State) (constant : UInt64) : State :=
  -- The constant goes into the first lane alone.
  let mixed := chi (rhoPi (theta state))
  mixed.set 0 (mixed[0] ^^^ constant)

/-- The permutation of the state. -/
def permute (state : State) : State := roundConstants.foldl round state

/-- The number of octets that one block brings in. -/
def rate : Nat := 136

/-- A block of `rate` octets brought into the state, which is then permuted. -/
def absorb (state : State) (block : Bytes) : State :=
  -- The block is read as lanes of eight octets, least significant first.
  let lanes := (Word.ofBytesLeastFirst block)
  permute (Vector.ofFn fun i : Fin 25 => state[i.val] ^^^ lanes.getD i.val 0)

/-- A message filled up to a multiple of the rate. -/
def pad (message : Bytes) : Bytes :=
  -- One mark follows the message and one ends the block; they may share an octet.
  let missing := rate - message.length % rate
  if missing = 1 then message ++ [0x81]
  else message ++ 0x01 :: Bytes.zeros (missing - 2) ++ [0x80]

/-- The state after all blocks of a message. -/
def sponge (message : Bytes) : State :=
  -- The state begins with all bits clear.
  (Bytes.chunks rate (pad message)).foldl absorb (Vector.replicate 25 0)

end Keccak

/-- The Keccak-256 digest of a message. -/
def keccak256 (message : Bytes) : FixedBytes 32 :=
  -- The first four lanes of the final state, least significant octet first.
  let state := Keccak.sponge message
  FixedBytes.leftJustified ((state.toList.take 4).flatMap fun lane => Bytes.leastFirst 8 lane.toNat)

end Countersign.Hash
