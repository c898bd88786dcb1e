import Countersign.Cipher.Aes
import Countersign.Proofs.Bytes

/-! Every block is encrypted to a block, whatever the key and the block are. -/

namespace Countersign

/-- The exclusive or is as long as the shorter of its arguments. -/
@[simp] theorem Bytes.length_xor (left right : Bytes) :
    (Bytes.xor left right).length = min left.length right.length := by
  -- Octets are paired, and what is left over is dropped.
  simp [Bytes.xor]

/-- Octets combined twice with the same ones are as before. -/
theorem Bytes.xor_xor {left right : Bytes} (covered : left.length ≤ right.length) :
    Bytes.xor (Bytes.xor left right) right = left := by
  -- Octet by octet, as long as there are others to combine with.
  induction left generalizing right with
  | nil => rfl
  | cons octet rest ih =>
    cases right with
    | nil => simp at covered
    | cons other others =>
      have shorter : rest.length ≤ others.length := by simpa using covered
      have same : octet ^^^ other ^^^ other = octet := by
        rw [UInt8.xor_assoc, UInt8.xor_self, UInt8.xor_zero]
      exact congrArg₂ List.cons same (ih shorter)

namespace Cipher

/-- Words of four octets. -/
def AreWords (words : Array Bytes) : Prop := ∀ word ∈ words, word.length = 4

/-- The word that a key is extended by next. -/
def nextWord (words : Array Bytes) : Bytes :=
  let last := words.getD (words.size - 1) []
  let mixed :=
    if words.size % 8 = 0 then
      let turned := (last.drop 1 ++ last.take 1).map lookUp
      let mark := (List.range (words.size / 8 - 1)).foldl (fun value _ => double value) 1
      Bytes.xor turned [mark, 0, 0, 0]
    else if words.size % 8 = 4 then last.map lookUp
    else last
  Bytes.xor (words.getD (words.size - 8) []) mixed

/-- A key is extended word by word. -/
theorem extendKey_succ (words : Array Bytes) (count : Nat) :
    extendKey words (count + 1) = extendKey (words.push (nextWord words)) count := by
  -- The word to come is the first of the places that are counted through.
  rw [extendKey, extendKey, List.range'_succ, List.foldl_cons, Array.size_push]
  rfl

/-- Parts of one length have that length wherever they are looked up. -/
theorem length_getD {parts : Array Bytes} {size index : Nat}
    (each : ∀ part ∈ parts, part.length = size) (inside : index < parts.size) :
    (parts.getD index []).length = size := by
  -- The place exists, so what is found there is one of the parts.
  simp only [Array.getD, inside, dif_pos]
  exact each _ (Array.getElem_mem inside)

/-- The next word of a key has four octets as well. -/
theorem AreWords.length_nextWord {words : Array Bytes} (whole : AreWords words)
    (enough : 8 ≤ words.size) : (nextWord words).length = 4 := by
  have last := length_getD whole (show words.size - 1 < words.size by omega)
  have before := length_getD whole (show words.size - 8 < words.size by omega)
  rw [nextWord, Bytes.length_xor, before]
  -- Whatever is done to the last word leaves it a word.
  generalize words.getD (words.size - 1) [] = word at last ⊢
  split
  · simp [last]
  · split
    · simp [last]
    · simp [last]

/-- A key is extended by as many words as asked for. -/
theorem AreWords.extendKey {words : Array Bytes} (whole : AreWords words) (enough : 8 ≤ words.size)
    (count : Nat) :
    AreWords (extendKey words count) ∧ (extendKey words count).size = words.size + count := by
  -- On the count: the next word is a word, and it makes the words one more.
  induction count generalizing words with
  | zero => exact ⟨whole, rfl⟩
  | succ count ih =>
    have longer : AreWords (words.push (nextWord words)) := by
      intro word member
      rcases Array.mem_push.mp member with old | rfl
      · exact whole word old
      · exact whole.length_nextWord enough
    have extended := ih longer (by rw [Array.size_push]; omega)
    rw [extendKey_succ]
    refine ⟨extended.1, extended.2.trans ?_⟩
    rw [Array.size_push]
    omega

/-- There are fifteen round keys, each as long as a block. -/
theorem roundKeys_blocks (key : FixedBytes 32) :
    (roundKeys key).length = 15 ∧ ∀ part ∈ roundKeys key, part.length = 16 := by
  -- Sixty words of four octets are fifteen blocks of sixteen.
  have divides : 4 ∣ key.toBytes.length := by
    rw [key.length_toBytes]
    decide
  have whole : AreWords (Bytes.chunks 4 key.toBytes).toArray := by
    intro word member
    exact Bytes.length_of_mem_chunks divides (List.mem_toArray.mp member)
  have size : (Bytes.chunks 4 key.toBytes).toArray.size = 8 :=
    Bytes.length_chunks (by decide) key.length_toBytes
  obtain ⟨words, count⟩ := whole.extendKey (Nat.le_of_eq size.symm) 52
  have octets : (Cipher.extendKey (Bytes.chunks 4 key.toBytes).toArray 52).toList.flatten.length =
      16 * 15 := by
    have lengths : (Cipher.extendKey (Bytes.chunks 4 key.toBytes).toArray 52).toList.map
        List.length = List.replicate 60 4 := by
      refine List.eq_replicate_iff.mpr ⟨?_, ?_⟩
      · rw [List.length_map, Array.length_toList, count, size]
      · intro length member
        obtain ⟨word, inside, rfl⟩ := List.mem_map.mp member
        exact words word (Array.mem_toList_iff.mp inside)
    rw [List.length_flatten, lengths]
    rfl
  constructor
  · exact Bytes.length_chunks (by decide) octets
  · intro part member
    exact Bytes.length_of_mem_chunks (octets ▸ Nat.dvd_mul_right 16 15) member

/-- Rows are shifted within a block. -/
@[simp] theorem length_shiftRows (block : Bytes) : (shiftRows block).length = 16 := by
  -- There is one octet for each of the sixteen places.
  simp [shiftRows]

/-- What a block is encrypted to is a block. -/
@[simp] theorem length_encryptBlock (key : FixedBytes 32) (block : Bytes) :
    (encryptBlock key block).length = 16 := by
  -- The last step combines a block with the last round key.
  obtain ⟨count, blocks⟩ := roundKeys_blocks key
  have last : ((roundKeys key).toArray.getD 14 []).length = 16 := by
    apply length_getD
    · intro part member
      exact blocks part (List.mem_toArray.mp member)
    · rw [List.size_toArray, count]
      decide
  rw [encryptBlock, Bytes.length_xor, length_shiftRows, last]
  rfl

end Cipher

end Countersign
