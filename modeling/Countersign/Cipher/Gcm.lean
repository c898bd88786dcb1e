import Countersign.Cipher.Aes

/-! Authenticated encryption: AES in counter mode with a polynomial tag over the ciphertext. -/

namespace Countersign.Cipher

/-- The product of two elements of the field of 2^128 elements, bits counted from the top. -/
def tagProduct (left right : Nat) : Nat :=
  -- One halving of the left factor for each bit of the right one, from its top.
  ((List.range 128).foldl (fun (state : Nat × Nat) place =>
    let (sum, factor) := state
    (if (right >>> (127 - place)) % 2 = 0 then sum else sum ^^^ factor,
      if factor % 2 = 0 then factor / 2 else (factor / 2) ^^^ (0xE1 <<< 120)))
    (0, left)).1

/-- Octets filled up with zeros to whole blocks. -/
def padBlock (bytes : Bytes) : Bytes :=
  -- A whole number of blocks gets nothing.
  bytes ++ Bytes.zeros ((16 - bytes.length % 16) % 16)

/-- The value of the tag polynomial of a ciphertext without associated data. -/
def tagHash (point : Nat) (ciphertext : Bytes) : Nat :=
  -- Blocks of the ciphertext, then a block with the bit lengths of both parts.
  let blocks := Bytes.chunks 16 (padBlock ciphertext ++ Bytes.bigEndian 16 (ciphertext.length * 8))
  blocks.foldl (fun value block => tagProduct (value ^^^ Bytes.toNat block) point) 0

/-- The counter block with a given number. -/
def counterBlock (nonce : FixedBytes 12) (number : Nat) : Bytes :=
  -- The nonce stands in front of four octets of counter.
  nonce.toBytes ++ Bytes.bigEndian 4 number

/-- Octets combined with the key stream, which is its own inverse. -/
def stream (key : FixedBytes 32) (nonce : FixedBytes 12) (bytes : Bytes) : Bytes :=
  -- The first counter is kept for the tag.
  let blocks := (Bytes.chunks 16 bytes).zipIdx 2
  blocks.flatMap fun (block, number) =>
    Bytes.xor block (encryptBlock key (counterBlock nonce number))

/-- The tag of a ciphertext, sixteen octets. -/
def tag (key : FixedBytes 32) (nonce : FixedBytes 12) (ciphertext : Bytes) : Bytes :=
  -- The polynomial is taken at the encrypted zero block and masked by the first counter block.
  let point := Bytes.toNat (encryptBlock key (Bytes.zeros 16))
  Bytes.xor (Bytes.bigEndian 16 (tagHash point ciphertext))
    (encryptBlock key (counterBlock nonce 1))

/-- A plaintext encrypted, with its tag behind it. -/
def encrypt (key : FixedBytes 32) (nonce : FixedBytes 12) (plaintext : Bytes) : Bytes :=
  -- The tag covers the ciphertext.
  let ciphertext := stream key nonce plaintext
  ciphertext ++ tag key nonce ciphertext

/-- The plaintext of a tagged ciphertext, if its tag is right. -/
def decrypt? (key : FixedBytes 32) (nonce : FixedBytes 12) (closed : Bytes) : Option Bytes :=
  -- The last sixteen octets are the tag.
  if closed.length < 16 then none
  else
    let ciphertext := closed.take (closed.length - 16)
    if tag key nonce ciphertext == closed.drop (closed.length - 16) then
      some (stream key nonce ciphertext)
    else none

end Countersign.Cipher
