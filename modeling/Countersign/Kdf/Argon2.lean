import Countersign.Hash.Blake2b
import Countersign.Kdf.Block

/-! Argon2id: a memory-hard key from a password and a salt. -/

namespace Countersign.Kdf

/-- The costs of deriving a key. -/
structure Cost where
  /-- Memory in blocks of 1024 octets. -/
  memory : UInt32
  /-- Passes over the memory. -/
  iterations : UInt32
  /-- Lanes that could be filled at the same time. -/
  parallelism : UInt32
  deriving DecidableEq, Repr

/-- Why no key can be derived. -/
inductive Refusal where
  /-- Fewer than eight blocks in all or for each lane. -/
  | memoryTooSmall
  /-- No pass at all. -/
  | timeTooSmall
  /-- No lane at all. -/
  | tooFewLanes
  /-- More lanes than twenty-four bits count. -/
  | tooManyLanes
  /-- More octets of password than thirty-two bits count. -/
  | passwordTooLong
  /-- Fewer than eight octets of salt. -/
  | saltTooShort
  /-- More octets of salt than thirty-two bits count. -/
  | saltTooLong
  deriving DecidableEq, Repr

/-- The wording of a refusal. -/
def Refusal.message : Refusal → String
  | .memoryTooSmall => "memory cost is too small"
  | .timeTooSmall => "time cost is too small"
  | .tooFewLanes => "not enough threads"
  | .tooManyLanes => "too many threads"
  | .passwordTooLong => "password is too long"
  | .saltTooShort => "salt is too short"
  | .saltTooLong => "salt is too long"

/-- Costs within their bounds; the first bound that is missed is reported. -/
def Cost.check (cost : Cost) : Except Refusal Unit :=
  -- Memory is judged before time, and time before lanes.
  let memory := cost.memory.toNat
  let lanes := cost.parallelism.toNat
  if memory < 8 ∨ memory < 8 * lanes then .error .memoryTooSmall
  else if cost.iterations = 0 then .error .timeTooSmall
  else if lanes = 0 then .error .tooFewLanes
  else if 0xFFFFFF < lanes then .error .tooManyLanes
  else .ok ()

namespace Argon2

/-- The four octets of a number, least significant first. -/
def word32 (value : Nat) : Bytes := Bytes.leastFirst 4 value

/-- Octets behind their count. -/
def counted (bytes : Bytes) : Bytes := word32 bytes.length ++ bytes

/-- Digests chained until `count` halves are taken, then a last one of the given size. -/
def chain (digest : Bytes) (count last : Nat) : Bytes :=
  -- Each link gives its first half and is hashed for the next one.
  match count with
  | 0 => []
  | 1 => digest.take 32 ++ (Hash.blake2b last digest).toBytes
  | more + 2 => digest.take 32 ++ chain (Hash.blake2b 64 digest).toBytes (more + 1) last

/-- A digest of any length. -/
def longDigest (size : Nat) (message : Bytes) : Bytes :=
  -- Up to sixty-four octets one digest is enough; beyond that it is a chain.
  let marked := word32 size ++ message
  if size ≤ 64 then (Hash.blake2b size marked).toBytes
  else
    let links := (size + 31) / 32 - 2
    chain (Hash.blake2b 64 marked).toBytes links (size - 32 * links)

/-- The shape of the memory: how many lanes, passes, and blocks in a quarter of a lane. -/
structure Layout where
  /-- The number of lanes. -/
  lanes : Nat
  /-- The number of passes. -/
  passes : Nat
  /-- The number of blocks in one quarter of a lane. -/
  segment : Nat

/-- The number of blocks in one lane. -/
def Layout.laneSize (layout : Layout) : Nat := 4 * layout.segment

/-- The number of blocks in all lanes. -/
def Layout.total (layout : Layout) : Nat := layout.lanes * layout.laneSize

/-- The place of a segment: which pass, which quarter, and which lane. -/
structure Segment where
  /-- The pass, counted from zero. -/
  pass : Nat
  /-- The quarter of the lane, counted from zero. -/
  slice : Nat
  /-- The lane, counted from zero. -/
  lane : Nat

/-- Whether references in a segment hang on its place alone and not on the contents. -/
def Segment.isFixed (segment : Segment) : Bool := segment.pass == 0 && segment.slice < 2

/-- The block of sixty-four pairs of numbers that fixed references are drawn from. -/
def addresses (layout : Layout) (segment : Segment) (counter : Nat) : Block :=
  -- A description of the segment, compressed twice with zeros.
  let words := [segment.pass, segment.lane, segment.slice, layout.total, layout.passes, 2, counter]
  let input := { Block.zero with r0 := Row.ofWords (words.map UInt64.ofNat) }
  Block.compress .zero (Block.compress .zero input)

/-- The place in memory of the block that a random word refers to. -/
def reference (layout : Layout) (segment : Segment) (index : Nat) (word : UInt64) : Nat :=
  -- The low half chooses among the blocks that are complete, favouring recent ones.
  let lane :=
    if segment.pass = 0 ∧ segment.slice = 0 then segment.lane
    else (word >>> 32).toNat % layout.lanes
  let complete :=
    if segment.pass = 0 then segment.slice * layout.segment else 3 * layout.segment
  let reachable :=
    if lane = segment.lane then complete + index - 1
    else if index = 0 then complete - 1
    else complete
  let low := (word &&& 0xFFFFFFFF).toNat
  let distance := reachable * (low * low / Nat.pow 2 32) / Nat.pow 2 32
  let origin :=
    if segment.pass = 0 ∨ segment.slice = 3 then 0 else (segment.slice + 1) * layout.segment
  lane * layout.laneSize + (origin + (reachable - 1 - distance)) % layout.laneSize

/-- The memory with one more block of a segment filled. -/
def fillBlock (layout : Layout) (segment : Segment) (fixed : Array UInt64) (memory : Array Block)
    (index : Nat) : Array Block :=
  -- The block before and a referred block are compressed; later passes add to what was there.
  let column := segment.slice * layout.segment + index
  let start := segment.lane * layout.laneSize
  let place := start + column
  let before := start + (column + layout.laneSize - 1) % layout.laneSize
  let previous := memory.getD before .zero
  let word := if segment.isFixed then fixed.getD index 0 else previous.r0.w0
  let other := memory.getD (reference layout segment index word) .zero
  let fresh := Block.compress previous other
  let fresh := if segment.pass = 0 then fresh else fresh.xor (memory.getD place .zero)
  memory.setIfInBounds place fresh

/-- The random words that the references of a fixed segment are made from. -/
def fixedWords (layout : Layout) (segment : Segment) : Array UInt64 :=
  -- Each description gives words for 128 blocks.
  if segment.isFixed then
    ((List.range ((layout.segment + 127) / 128)).flatMap fun batch =>
      let block := addresses layout segment (batch + 1)
      [block.r0, block.r1, block.r2, block.r3, block.r4, block.r5, block.r6, block.r7].flatMap
        Row.words).toArray
  else #[]

/-- The memory with all blocks of a segment filled. -/
def fillSegment (layout : Layout) (memory : Array Block) (segment : Segment) : Array Block :=
  -- The first two blocks of a lane come from the password.
  let fixed := fixedWords layout segment
  let skipped := if segment.pass = 0 ∧ segment.slice = 0 then 2 else 0
  (List.range' skipped (layout.segment - skipped)).foldl (fillBlock layout segment fixed) memory

/-- All segments in the order in which they are filled. -/
def segments (layout : Layout) : List Segment :=
  -- Lanes vary fastest, then quarters, then passes.
  (List.range layout.passes).flatMap fun pass => (List.range 4).flatMap fun slice =>
    (List.range layout.lanes).map fun lane => ⟨pass, slice, lane⟩

/-- The digest that all blocks start from. -/
def seed (cost : Cost) (size : Nat) (password salt : Bytes) : Bytes :=
  -- All parameters and inputs, with no secret and no associated data.
  (Hash.blake2b 64 (word32 cost.parallelism.toNat ++ word32 size ++ word32 cost.memory.toNat
    ++ word32 cost.iterations.toNat ++ word32 0x13 ++ word32 2 ++ counted password ++ counted salt
    ++ counted [] ++ counted [])).toBytes

/-- The memory before the first pass, with two blocks of each lane set. -/
def start (layout : Layout) (digest : Bytes) : Array Block :=
  -- The two blocks of a lane are told apart by their column.
  (List.range layout.lanes).foldl (fun memory lane =>
    (List.range 2).foldl (fun memory column =>
      memory.setIfInBounds (lane * layout.laneSize + column)
        (.ofBytes (longDigest 1024 (digest ++ word32 column ++ word32 lane)))) memory)
    (Array.replicate layout.total .zero)

end Argon2

/-- The key of `size` octets that Argon2id derives from a password and a salt. -/
def argon2id (cost : Cost) (size : Nat) (password salt : Bytes) : Bytes :=
  -- The last blocks of all lanes are added and hashed.
  let lanes := cost.parallelism.toNat
  let layout : Argon2.Layout := ⟨lanes, cost.iterations.toNat, cost.memory.toNat / (4 * lanes)⟩
  let first := Argon2.start layout (Argon2.seed cost size password salt)
  let memory := (Argon2.segments layout).foldl (Argon2.fillSegment layout) first
  let last := (List.range lanes).foldl (fun total lane =>
    total.xor (memory.getD (lane * layout.laneSize + layout.laneSize - 1) .zero)) Block.zero
  Argon2.longDigest size last.toBytes

end Countersign.Kdf
