import Countersign.Hash.Word

/-! SHA-512: eighty rounds over eight words for every block of 128 octets. -/

namespace Countersign.Hash.Sha512

/-- The eight words that every message starts from and that blocks are added to. -/
abbrev State := Vector UInt64 8

/-- The leading fraction bits of the square roots of the first eight primes. -/
def initial : State :=
  -- The state before the first block.
  #v[
    0x6a09e667f3bcc908, 0xbb67ae8584caa73b, 0x3c6ef372fe94f82b, 0xa54ff53a5f1d36f1,
    0x510e527fade682d1, 0x9b05688c2b3e6c1f, 0x1f83d9abfb41bd6b, 0x5be0cd19137e2179]

/-- The leading fraction bits of the cube roots of the first eighty primes. -/
def roundConstants : Array UInt64 :=
  -- One constant for each round.
  #[
    0x428a2f98d728ae22, 0x7137449123ef65cd, 0xb5c0fbcfec4d3b2f, 0xe9b5dba58189dbbc,
    0x3956c25bf348b538, 0x59f111f1b605d019, 0x923f82a4af194f9b, 0xab1c5ed5da6d8118,
    0xd807aa98a3030242, 0x12835b0145706fbe, 0x243185be4ee4b28c, 0x550c7dc3d5ffb4e2,
    0x72be5d74f27b896f, 0x80deb1fe3b1696b1, 0x9bdc06a725c71235, 0xc19bf174cf692694,
    0xe49b69c19ef14ad2, 0xefbe4786384f25e3, 0x0fc19dc68b8cd5b5, 0x240ca1cc77ac9c65,
    0x2de92c6f592b0275, 0x4a7484aa6ea6e483, 0x5cb0a9dcbd41fbd4, 0x76f988da831153b5,
    0x983e5152ee66dfab, 0xa831c66d2db43210, 0xb00327c898fb213f, 0xbf597fc7beef0ee4,
    0xc6e00bf33da88fc2, 0xd5a79147930aa725, 0x06ca6351e003826f, 0x142929670a0e6e70,
    0x27b70a8546d22ffc, 0x2e1b21385c26c926, 0x4d2c6dfc5ac42aed, 0x53380d139d95b3df,
    0x650a73548baf63de, 0x766a0abb3c77b2a8, 0x81c2c92e47edaee6, 0x92722c851482353b,
    0xa2bfe8a14cf10364, 0xa81a664bbc423001, 0xc24b8b70d0f89791, 0xc76c51a30654be30,
    0xd192e819d6ef5218, 0xd69906245565a910, 0xf40e35855771202a, 0x106aa07032bbd1b8,
    0x19a4c116b8d2d0c8, 0x1e376c085141ab53, 0x2748774cdf8eeb99, 0x34b0bcb5e19b48a8,
    0x391c0cb3c5c95a63, 0x4ed8aa4ae3418acb, 0x5b9cca4f7763e373, 0x682e6ff3d6b2b8a3,
    0x748f82ee5defb2fc, 0x78a5636f43172f60, 0x84c87814a1f0ab72, 0x8cc702081a6439ec,
    0x90befffa23631e28, 0xa4506cebde82bde9, 0xbef9a3f7b2c67915, 0xc67178f2e372532b,
    0xca273eceea26619c, 0xd186b8c721c0c207, 0xeada7dd6cde0eb1e, 0xf57d4f7fee6ed178,
    0x06f067aa72176fba, 0x0a637dc5a2c898a6, 0x113f9804bef90dae, 0x1b710b35131c471b,
    0x28db77f523047d84, 0x32caab7b40c72493, 0x3c9ebe0a15c9bebc, 0x431d67c49c100d4c,
    0x4cc5d4becb3e42b6, 0x597f299cfc657e2a, 0x5fcb6fab3ad6faec, 0x6c44198c4a475817]

/-- The word that a round takes in, made from four words before it. -/
def extend (schedule : Array UInt64) (index : Nat) : UInt64 :=
  -- The words stand sixteen, fifteen, seven and two places before this one.
  let near := schedule.getD (index - 2) 0
  let far := schedule.getD (index - 15) 0
  let fold := Word.rotateRight far 1 ^^^ Word.rotateRight far 8 ^^^ (far >>> 7)
  let turn := Word.rotateRight near 19 ^^^ Word.rotateRight near 61 ^^^ (near >>> 6)
  schedule.getD (index - 16) 0 + fold + schedule.getD (index - 7) 0 + turn

/-- The eighty words that the rounds of a block take in. -/
def schedule (block : Bytes) : Array UInt64 :=
  -- Sixteen words come from the block, the others from those before them.
  (List.range' 16 64).foldl (fun words index => words.push (extend words index))
    (Word.ofBytes block).toArray

/-- One round with its word and its constant. -/
def round (state : State) (word constant : UInt64) : State :=
  -- Two words are renewed and the other six move on by one place.
  let a := state[0]
  let e := state[4]
  let choice := (e &&& state[5]) ^^^ (~~~e &&& state[6])
  let majority := (a &&& state[1]) ^^^ (a &&& state[2]) ^^^ (state[1] &&& state[2])
  let high := Word.rotateRight a 28 ^^^ Word.rotateRight a 34 ^^^ Word.rotateRight a 39
  let low := Word.rotateRight e 14 ^^^ Word.rotateRight e 18 ^^^ Word.rotateRight e 41
  let first := state[7] + low + choice + constant + word
  #v[first + high + majority, a, state[1], state[2], state[3] + first, e, state[5], state[6]]

/-- The state after one more block. -/
def absorb (state : State) (block : Bytes) : State :=
  -- The rounds run on a copy, which is then added to the state.
  let words := schedule block
  let mixed := (List.range 80).foldl
    (fun current index => round current (words.getD index 0) (roundConstants.getD index 0)) state
  Vector.zipWith (· + ·) state mixed

/-- A message filled up to a multiple of 128 octets, its bit length at the end. -/
def pad (message : Bytes) : Bytes :=
  -- One mark, as many zeros as needed, then the length in sixteen octets.
  message ++ 0x80 :: Bytes.zeros ((239 - message.length % 128) % 128)
    ++ Bytes.bigEndian 16 (message.length * 8)

end Sha512

/-- The SHA-512 digest of a message. -/
def sha512 (message : Bytes) : FixedBytes 64 :=
  -- All eight words of the final state, most significant octet first.
  let state := (Bytes.chunks 128 (Sha512.pad message)).foldl Sha512.absorb Sha512.initial
  FixedBytes.leftJustified (Word.toBytes state.toList)

end Countersign.Hash
