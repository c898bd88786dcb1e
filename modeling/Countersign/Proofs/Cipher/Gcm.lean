import Countersign.Cipher.Gcm
import Countersign.Proofs.Cipher.Aes

/-! What is encrypted is decrypted under the same key and nonce, and sixteen octets longer. -/

namespace Countersign.Cipher

/-- Octets combined with numbered pads, one for each block. -/
def streamFrom (pad : Nat → Bytes) (number : Nat) (bytes : Bytes) : Bytes :=
  ((Bytes.chunks 16 bytes).zipIdx number).flatMap fun (block, place) => Bytes.xor block (pad place)

/-- No octets use no pad. -/
theorem streamFrom_nil (pad : Nat → Bytes) (number : Nat) : streamFrom pad number [] = [] := by
  -- There is no block to combine with one.
  rw [streamFrom, Bytes.chunks, if_pos (.inr rfl)]
  rfl

/-- The first block takes the first pad. -/
theorem streamFrom_of_ne_nil (pad : Nat → Bytes) (number : Nat) {bytes : Bytes}
    (filled : bytes ≠ []) : streamFrom pad number bytes =
      Bytes.xor (bytes.take 16) (pad number) ++ streamFrom pad (number + 1) (bytes.drop 16) := by
  -- Cutting into blocks goes on as long as there are octets.
  have more : ¬ (16 = 0 ∨ bytes = []) := by simp [filled]
  rw [streamFrom, Bytes.chunks, if_neg more, List.zipIdx_cons, List.flatMap_cons, streamFrom]

section

variable {pad : Nat → Bytes} (whole : ∀ number, (pad number).length = 16)

include whole

/-- Octets keep their number when they are combined with pads of a full block each. -/
@[simp] theorem length_streamFrom (number : Nat) (bytes : Bytes) :
    (streamFrom pad number bytes).length = bytes.length := by
  -- Block by block, the last of which may be short.
  induction bytes using Bytes.chunks.induct 16 generalizing number with
  | case1 bytes finished =>
    have empty : bytes = [] := finished.resolve_left (by decide)
    rw [empty, streamFrom_nil]
  | case2 bytes more ih =>
    rw [streamFrom_of_ne_nil pad number fun empty => more (.inr empty), List.length_append, ih,
      Bytes.length_xor, whole, List.length_take, List.length_drop]
    omega

/-- Combining twice with the same pads gives the octets back. -/
theorem streamFrom_streamFrom (number : Nat) (bytes : Bytes) :
    streamFrom pad number (streamFrom pad number bytes) = bytes := by
  -- Block by block: the stream is cut where the octets are, so each pad meets its own block.
  induction bytes using Bytes.chunks.induct 16 generalizing number with
  | case1 bytes finished =>
    have empty : bytes = [] := finished.resolve_left (by decide)
    rw [empty, streamFrom_nil, streamFrom_nil]
  | case2 bytes more ih =>
    have filled : bytes ≠ [] := fun empty => more (.inr empty)
    have front : (Bytes.xor (bytes.take 16) (pad number)).length = min 16 bytes.length := by
      rw [Bytes.length_xor, whole, List.length_take]
      omega
    have again : streamFrom pad number bytes ≠ [] := by
      rw [← List.length_pos_iff, length_streamFrom whole]
      exact List.length_pos_iff.mpr filled
    -- Either the first block is whole or there is no other.
    have cut : (streamFrom pad number bytes).take 16 = Bytes.xor (bytes.take 16) (pad number) ∧
        (streamFrom pad number bytes).drop 16 = streamFrom pad (number + 1) (bytes.drop 16) := by
      rw [streamFrom_of_ne_nil pad number filled]
      rcases Nat.le_total 16 bytes.length with long | short
      · rw [Nat.min_eq_left long] at front
        exact ⟨List.take_left' front, List.drop_left' front⟩
      · rw [Nat.min_eq_right short] at front
        rw [List.drop_eq_nil_of_le short, streamFrom_nil, List.append_nil]
        exact ⟨List.take_of_length_le (front ▸ short), List.drop_eq_nil_of_le (front ▸ short)⟩
    rw [streamFrom_of_ne_nil pad number again, cut.1, cut.2, ih, Bytes.xor_xor,
      List.take_append_drop]
    rw [whole, List.length_take]
    omega

end

/-- The key stream combined twice with octets gives them back. -/
theorem stream_stream (key : FixedBytes 32) (nonce : FixedBytes 12) (bytes : Bytes) :
    stream key nonce (stream key nonce bytes) = bytes :=
  -- Every pad is an encrypted counter, which has the size of a block.
  streamFrom_streamFrom (fun number => length_encryptBlock key (counterBlock nonce number)) 2 bytes

/-- The key stream does not change the number of octets. -/
@[simp] theorem length_stream (key : FixedBytes 32) (nonce : FixedBytes 12) (bytes : Bytes) :
    (stream key nonce bytes).length = bytes.length :=
  -- Again every pad has the size of a block.
  length_streamFrom (fun number => length_encryptBlock key (counterBlock nonce number)) 2 bytes

/-- A tag has sixteen octets. -/
@[simp] theorem length_tag (key : FixedBytes 32) (nonce : FixedBytes 12) (ciphertext : Bytes) :
    (tag key nonce ciphertext).length = 16 := by
  -- It is written as a number in sixteen places.
  simp [tag]

/-- What was encrypted is decrypted. -/
theorem decrypt?_encrypt (key : FixedBytes 32) (nonce : FixedBytes 12) (plaintext : Bytes) :
    decrypt? key nonce (encrypt key nonce plaintext) = some plaintext := by
  -- The tag is cut off by its length, and it is the tag of what is left.
  simp [decrypt?, encrypt, stream_stream]

/-- A tagged ciphertext is sixteen octets longer than what it is decrypted to. -/
theorem length_of_decrypt? {key : FixedBytes 32} {nonce : FixedBytes 12} {closed plaintext : Bytes}
    (opened : decrypt? key nonce closed = some plaintext) :
    closed.length = plaintext.length + 16 := by
  -- What is shorter than a tag is refused, and the tag is cut off from the rest.
  simp only [decrypt?] at opened
  split at opened
  · cases opened
  · rename_i long
    split at opened
    · cases opened
      rw [length_stream, List.length_take]
      omega
    · cases opened

end Countersign.Cipher
