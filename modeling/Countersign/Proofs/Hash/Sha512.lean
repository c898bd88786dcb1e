import Countersign.Hash.Sha512
import Countersign.Proofs.Bytes

/-! SHA-512 over eight named words and a schedule that grows at its front: no step looks a word up
by its place, and the digest of a fixed message is quick to compute. -/

namespace Countersign.Hash

namespace Sha512

/-- The eight words of a state. -/
structure Words where
  (a b c d e f g h : UInt64)

/-- The first words of a list, and zero where there are none. -/
def Words.ofList (words : List UInt64) : Words :=
  let word (place : Nat) := words.getD place 0
  ⟨word 0, word 1, word 2, word 3, word 4, word 5, word 6, word 7⟩

/-- The words of a state one by one. -/
def State.words (state : State) : Words := .ofList state.toList

namespace Words

/-- The words in order. -/
def toList (words : Words) : List UInt64 :=
  [words.a, words.b, words.c, words.d, words.e, words.f, words.g, words.h]

/-- The sums of two states, word by word. -/
def add (left right : Words) : Words :=
  ⟨left.a + right.a, left.b + right.b, left.c + right.c, left.d + right.d, left.e + right.e,
    left.f + right.f, left.g + right.g, left.h + right.h⟩

open Word in
/-- One round with its word and its constant. -/
def round (words : Words) (input : UInt64 × UInt64) : Words :=
  let choice := (words.e &&& words.f) ^^^ (~~~words.e &&& words.g)
  let majority := (words.a &&& words.b) ^^^ (words.a &&& words.c) ^^^ (words.b &&& words.c)
  let high := rotateRight words.a 28 ^^^ rotateRight words.a 34 ^^^ rotateRight words.a 39
  let low := rotateRight words.e 14 ^^^ rotateRight words.e 18 ^^^ rotateRight words.e 41
  let first := words.h + low + choice + input.2 + input.1
  ⟨first + high + majority, words.a, words.b, words.c, words.d + first, words.e, words.f, words.g⟩

open Word in
/-- A schedule with one more word; the newest one stands in front. -/
def extend (schedule : List UInt64) : List UInt64 :=
  -- The second newest word stands one place behind the front.
  let near := schedule.getD 1 0
  let far := schedule.getD 14 0
  let fold := rotateRight far 1 ^^^ rotateRight far 8 ^^^ (far >>> 7)
  let turn := rotateRight near 19 ^^^ rotateRight near 61 ^^^ (near >>> 6)
  (schedule.getD 15 0 + fold + schedule.getD 6 0 + turn) :: schedule

/-- The words that the rounds of a block take in. -/
def schedule (block : Bytes) : List UInt64 :=
  (Nat.repeat extend 64 (Word.ofBytes block).reverse).reverse

/-- The state after one more block. -/
def absorb (words : Words) (block : Bytes) : Words :=
  words.add (((schedule block).zip roundConstants.toList).foldl round words)

/-- The digest of a message. -/
def digest (message : Bytes) : FixedBytes 64 :=
  FixedBytes.leftJustified (Word.toBytes
    ((Bytes.chunks 128 (pad message)).foldl absorb initial.words).toList)

end Words

variable (state : State)

/-- A round, word by word. -/
theorem words_round (word constant : UInt64) :
    (round state word constant).words = state.words.round (word, constant) := by
  -- The eight words are given by the same terms on both sides.
  simp [State.words, Words.ofList, round, Words.round]

/-- Two states are added word by word. -/
theorem words_zipWith (other : State) :
    State.words (Vector.zipWith (· + ·) state other) = state.words.add other.words := by
  -- Words are added place by place on both sides.
  simp [State.words, Words.ofList, Words.add]

/-- The words of a state in order are the state. -/
theorem toList_words : state.words.toList = state.toList := by
  -- There are eight words and no others.
  obtain ⟨⟨words⟩, size⟩ := state
  match words, size with
  | [_, _, _, _, _, _, _, _], _ => rfl

/-- The word behind a schedule is the one in front of it when its newest word stands in front. -/
theorem push_extend {newest : List UInt64} (enough : 16 ≤ newest.length) :
    newest.reverse.toArray.push (extend newest.reverse.toArray newest.length) =
      (Words.extend newest).reverse.toArray := by
  -- What stands so many places before the end stands as many behind the front.
  have place (back : Nat) (within : back < 16) :
      newest.reverse.toArray.getD (newest.length - (back + 1)) 0 = newest.getD back 0 := by
    rw [Array.getD_eq_getD_getElem?, List.getElem?_toArray, List.getElem?_reverse (by omega),
      List.getD_eq_getElem?_getD]
    congr 3
    omega
  have word : extend newest.reverse.toArray newest.length =
      (Words.extend newest).headD 0 := by
    simp only [extend, Words.extend, List.headD_cons]
    rw [place 15 (by decide), place 14 (by decide), place 6 (by decide), place 1 (by decide)]
  rw [word, List.push_toArray, Words.extend, List.headD_cons, List.reverse_cons]

/-- Each step adds one word. -/
theorem length_repeat_extend (count : Nat) (newest : List UInt64) :
    (Nat.repeat Words.extend count newest).length = newest.length + count := by
  -- On the number of steps.
  induction count with
  | zero => rfl
  | succ count ih => rw [Nat.repeat, Words.extend, List.length_cons, ih, Nat.add_assoc]

/-- A schedule that grows at its end is one that grows at its front, turned round. -/
theorem foldl_extend (count : Nat) {newest : List UInt64} (enough : 16 ≤ newest.length) :
    (List.range' newest.length count).foldl (fun words index => words.push (extend words index))
      newest.reverse.toArray = (Nat.repeat Words.extend count newest).reverse.toArray := by
  -- On the number of words added; the newest one is last on one side and first on the other.
  induction count with
  | zero => rfl
  | succ count ih =>
    have grown := length_repeat_extend count newest
    rw [List.range'_1_concat, List.foldl_append, ih, List.foldl_cons, List.foldl_nil, ← grown,
      push_extend (by omega), Nat.repeat]

variable {block : Bytes}

/-- A block has sixteen words. -/
theorem length_ofBytes (full : block.length = 128) : (Word.ofBytes block).length = 16 := by
  -- Eight octets make one word.
  have parts : block.length = 8 * 16 := full
  rw [Word.ofBytes, List.length_map, Bytes.length_chunks (by decide) parts]

/-- There is a word for each round. -/
theorem length_schedule (full : block.length = 128) : (Words.schedule block).length = 80 := by
  -- To the sixteen words of the block sixty-four are added.
  rw [Words.schedule, List.length_reverse, length_repeat_extend, List.length_reverse,
    length_ofBytes full]

/-- Both schedules of a block are the same. -/
theorem schedule_eq (full : block.length = 128) :
    schedule block = (Words.schedule block).toArray := by
  -- The words of the block are the start of both.
  have first : (Word.ofBytes block).reverse.length = 16 := by
    rw [List.length_reverse, length_ofBytes full]
  have grown := foldl_extend 64 (Nat.le_of_eq first.symm)
  rwa [first, List.reverse_reverse] at grown

/-- Rounds that look their words up take in the words one after the other. -/
theorem foldl_round {words : List UInt64} (full : words.length = 80) :
    (List.range 80).foldl (fun current index =>
        round current (words.toArray.getD index 0) (roundConstants.getD index 0)) state =
      (words.zip roundConstants.toList).foldl
        (fun current input => round current input.1 input.2) state := by
  -- The places are those of the two lists side by side.
  have inputs : words.zip roundConstants.toList = (List.range 80).map fun index =>
      (words.toArray.getD index 0, roundConstants.getD index 0) := by
    apply List.ext_getElem
    · simp [full, roundConstants]
    · intro index left right
      have within : index < 80 := by simpa using right
      have listed : index < roundConstants.size := within
      simp [full, within, listed]
  rw [inputs, List.foldl_map]

/-- A block is taken in word by word. -/
theorem words_absorb (full : block.length = 128) :
    (absorb state block).words = state.words.absorb block := by
  rw [absorb, schedule_eq full, foldl_round state (length_schedule full), words_zipWith,
    Words.absorb]
  -- What is left is the fold over the rounds.
  congr 1
  exact (List.foldl_hom State.words fun state input =>
    (words_round state input.1 input.2).symm).symm

/-- Blocks are taken in one after the other. -/
theorem words_foldl_absorb {blocks : List Bytes} (full : ∀ part ∈ blocks, part.length = 128) :
    (blocks.foldl absorb state).words = blocks.foldl Words.absorb state.words := by
  -- On the blocks, each of which is whole.
  induction blocks generalizing state with
  | nil => rfl
  | cons first later ih =>
    rw [List.forall_mem_cons] at full
    rw [List.foldl_cons, List.foldl_cons, ih _ full.2, words_absorb state full.1]

/-- A message is filled up to whole blocks. -/
theorem dvd_length_pad (message : Bytes) : 128 ∣ (pad message).length := by
  -- The zeros fill what the message, the mark and the length leave open.
  simp only [pad, List.length_append, List.length_cons, Bytes.zeros, List.length_replicate,
    Bytes.length_bigEndian]
  omega

end Sha512

/-- The digest of a message, word by word. -/
theorem sha512_eq_digest (message : Bytes) : sha512 message = Sha512.Words.digest message := by
  rw [sha512, Sha512.Words.digest, ← Sha512.words_foldl_absorb, Sha512.toList_words]
  intro block member
  -- Cutting a padded message gives whole blocks only.
  exact Bytes.length_of_mem_chunks (Sha512.dvd_length_pad message) member

end Countersign.Hash
