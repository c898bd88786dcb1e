import Countersign.Hash.Sha512

/-! BLAKE2b without a key, for digests of one to sixty-four octets. -/

namespace Countersign.Hash.Blake2b

/-- The eight words that blocks are mixed into. -/
abbrev State := Vector UInt64 8

/-- The sixteen words that the rounds of one block work on. -/
abbrev Work := Vector UInt64 16

/-- The order in which ten consecutive rounds take in the words of a block. -/
def orders : Array (Vector Nat 16) :=
  -- The eleventh round starts over with the first order.
  #[#v[0, 1, 2, 3, 4, 5, 6, 7, 8, 9, 10, 11, 12, 13, 14, 15],
    #v[14, 10, 4, 8, 9, 15, 13, 6, 1, 12, 0, 2, 11, 7, 5, 3],
    #v[11, 8, 12, 0, 5, 2, 15, 13, 10, 14, 3, 6, 7, 1, 9, 4],
    #v[7, 9, 3, 1, 13, 12, 11, 14, 2, 6, 5, 10, 4, 0, 15, 8],
    #v[9, 0, 5, 7, 2, 4, 10, 15, 14, 1, 11, 12, 6, 8, 3, 13],
    #v[2, 12, 6, 10, 0, 11, 8, 3, 4, 13, 7, 5, 15, 14, 1, 9],
    #v[12, 5, 1, 15, 14, 13, 4, 10, 0, 7, 6, 3, 9, 2, 8, 11],
    #v[13, 11, 7, 14, 12, 1, 3, 9, 5, 0, 15, 4, 8, 6, 2, 10],
    #v[6, 15, 14, 9, 11, 3, 0, 8, 12, 2, 13, 7, 1, 4, 10, 5],
    #v[10, 2, 8, 4, 7, 6, 1, 5, 15, 11, 9, 14, 3, 12, 13, 0]]

/-- Four words of the work, named by their places, mixed with two words of the block. -/
def mix (work : Work) (a b c d : Fin 16) (first second : UInt64) : Work :=
  -- Additions, exclusive ors and turns by fixed counts, twice over.
  let a1 := work.get a + work.get b + first
  let d1 := Word.rotateRight (work.get d ^^^ a1) 32
  let c1 := work.get c + d1
  let b1 := Word.rotateRight (work.get b ^^^ c1) 24
  let a2 := a1 + b1 + second
  let d2 := Word.rotateRight (d1 ^^^ a2) 16
  let c2 := c1 + d2
  let b2 := Word.rotateRight (b1 ^^^ c2) 63
  (((work.set a a2).set b b2).set c c2).set d d2

/-- One round: the four columns, then the four diagonals. -/
def round (block : Vector UInt64 16) (work : Work) (order : Vector Nat 16) : Work :=
  -- Each mixing takes in the next two words under the round's order.
  let word (place : Fin 16) := block.toArray.getD (order.get place) 0
  let work := mix work 0 4 8 12 (word 0) (word 1)
  let work := mix work 1 5 9 13 (word 2) (word 3)
  let work := mix work 2 6 10 14 (word 4) (word 5)
  let work := mix work 3 7 11 15 (word 6) (word 7)
  let work := mix work 0 5 10 15 (word 8) (word 9)
  let work := mix work 1 6 11 12 (word 10) (word 11)
  let work := mix work 2 7 8 13 (word 12) (word 13)
  mix work 3 4 9 14 (word 14) (word 15)

/-- The state after a block, where `count` octets have been taken in up to its end. -/
def compress (state : State) (part : Bytes) (count : Nat) (last : Bool) : State :=
  -- The work holds the state and the initial words, marked with the count and with the end.
  let words := Word.ofBytesLeastFirst part
  let block := Vector.ofFn fun i : Fin 16 => words.getD i.val 0
  let work : Work := (state ++ Sha512.initial).cast rfl
  let work := work.set 12 (work[12] ^^^ UInt64.ofNat count)
  let work := work.set 13 (work[13] ^^^ UInt64.ofNat (count / Nat.pow 2 64))
  let work := if last then work.set 14 (~~~work[14]) else work
  let final := (List.range 12).foldl (fun current index =>
    round block current (orders.getD (index % 10) (Vector.replicate 16 0))) work
  Vector.ofFn fun i : Fin 8 => state[i.val] ^^^ final[i.val] ^^^ final[i.val + 8]

/-- The state after all blocks of a message; `taken` octets came before them. -/
def absorbAll (state : State) (taken : Nat) : List Bytes → State
  | [] => state
  | [part] => compress state part (taken + part.length) true
  | part :: rest => absorbAll (compress state part (taken + part.length) false)
      (taken + part.length) rest

/-- The state before the first block of a message without a key. -/
def start (size : Nat) : State :=
  -- The digest length and the fixed parameters go into the first word.
  Sha512.initial.mapIdx fun index word =>
    if index = 0 then word ^^^ 0x01010000 ^^^ UInt64.ofNat size else word

end Blake2b

/-- The BLAKE2b digest of a message in `size` octets, at most sixty-four. -/
def blake2b (size : Nat) (message : Bytes) : FixedBytes size :=
  -- The empty message still has one block, all of it zero.
  let parts := if message.isEmpty then [[]] else Bytes.chunks 128 message
  let state := Blake2b.absorbAll (Blake2b.start size) 0 parts
  FixedBytes.leftJustified (Word.toBytesLeastFirst state.toList)

end Countersign.Hash
