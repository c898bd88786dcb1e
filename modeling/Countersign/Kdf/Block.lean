import Countersign.Hash.Word

/-! Blocks of 1024 octets: their exclusive or, and the compression of two into one. -/

namespace Countersign.Kdf

/-- Sixteen words that one permutation works on. -/
structure Row where
  /-- The word in place 0. -/
  w0 : UInt64
  /-- The word in place 1. -/
  w1 : UInt64
  /-- The word in place 2. -/
  w2 : UInt64
  /-- The word in place 3. -/
  w3 : UInt64
  /-- The word in place 4. -/
  w4 : UInt64
  /-- The word in place 5. -/
  w5 : UInt64
  /-- The word in place 6. -/
  w6 : UInt64
  /-- The word in place 7. -/
  w7 : UInt64
  /-- The word in place 8. -/
  w8 : UInt64
  /-- The word in place 9. -/
  w9 : UInt64
  /-- The word in place 10. -/
  w10 : UInt64
  /-- The word in place 11. -/
  w11 : UInt64
  /-- The word in place 12. -/
  w12 : UInt64
  /-- The word in place 13. -/
  w13 : UInt64
  /-- The word in place 14. -/
  w14 : UInt64
  /-- The word in place 15. -/
  w15 : UInt64

/-- Eight rows of sixteen words. -/
structure Block where
  /-- The row in place 0. -/
  r0 : Row
  /-- The row in place 1. -/
  r1 : Row
  /-- The row in place 2. -/
  r2 : Row
  /-- The row in place 3. -/
  r3 : Row
  /-- The row in place 4. -/
  r4 : Row
  /-- The row in place 5. -/
  r5 : Row
  /-- The row in place 6. -/
  r6 : Row
  /-- The row in place 7. -/
  r7 : Row

namespace Row

/-- A row of zeros. -/
def zero : Row := ⟨0, 0, 0, 0, 0, 0, 0, 0, 0, 0, 0, 0, 0, 0, 0, 0⟩

/-- The wordwise exclusive or of two rows. -/
def xor (a b : Row) : Row :=
  -- Words in the same place are combined.
  ⟨a.w0 ^^^ b.w0, a.w1 ^^^ b.w1, a.w2 ^^^ b.w2, a.w3 ^^^ b.w3,
    a.w4 ^^^ b.w4, a.w5 ^^^ b.w5, a.w6 ^^^ b.w6, a.w7 ^^^ b.w7,
    a.w8 ^^^ b.w8, a.w9 ^^^ b.w9, a.w10 ^^^ b.w10, a.w11 ^^^ b.w11,
    a.w12 ^^^ b.w12, a.w13 ^^^ b.w13, a.w14 ^^^ b.w14, a.w15 ^^^ b.w15⟩

/-- A sum that also takes in twice the product of the low halves. -/
@[inline] def spread (a b : UInt64) : UInt64 :=
  -- The product makes every addition costly in hardware.
  a + b + 2 * (a &&& 0xFFFFFFFF) * (b &&& 0xFFFFFFFF)

/-- Four words mixed by sums and turns. -/
@[inline] def mix (a b c d : UInt64) : UInt64 × UInt64 × UInt64 × UInt64 :=
  -- Twice two half steps with their own turns.
  let a := spread a b
  let d := Hash.Word.rotateRight (d ^^^ a) 32
  let c := spread c d
  let b := Hash.Word.rotateRight (b ^^^ c) 24
  let a := spread a b
  let d := Hash.Word.rotateRight (d ^^^ a) 16
  let c := spread c d
  let b := Hash.Word.rotateRight (b ^^^ c) 63
  (a, b, c, d)

/-- The permutation of a row: its four columns, then its four diagonals. -/
def permute (row : Row) : Row :=
  -- The row is seen as a square of four by four words.
  let (v0, v4, v8, v12) := mix row.w0 row.w4 row.w8 row.w12
  let (v1, v5, v9, v13) := mix row.w1 row.w5 row.w9 row.w13
  let (v2, v6, v10, v14) := mix row.w2 row.w6 row.w10 row.w14
  let (v3, v7, v11, v15) := mix row.w3 row.w7 row.w11 row.w15
  let (v0, v5, v10, v15) := mix v0 v5 v10 v15
  let (v1, v6, v11, v12) := mix v1 v6 v11 v12
  let (v2, v7, v8, v13) := mix v2 v7 v8 v13
  let (v3, v4, v9, v14) := mix v3 v4 v9 v14
  ⟨v0, v1, v2, v3, v4, v5, v6, v7, v8, v9, v10, v11, v12, v13, v14, v15⟩

/-- The row of sixteen words read from a list; missing ones are zero. -/
def ofWords (words : List UInt64) : Row :=
  -- Places are looked up one by one.
  let word (place : Nat) := words.getD place 0
  ⟨word 0, word 1, word 2, word 3, word 4, word 5, word 6, word 7,
    word 8, word 9, word 10, word 11, word 12, word 13, word 14, word 15⟩

/-- The words of a row in order. -/
def words (row : Row) : List UInt64 :=
  -- Sixteen places from left to right.
  [row.w0, row.w1, row.w2, row.w3, row.w4, row.w5, row.w6, row.w7,
    row.w8, row.w9, row.w10, row.w11, row.w12, row.w13, row.w14, row.w15]

end Row

namespace Block

/-- A block of zeros. -/
def zero : Block := ⟨.zero, .zero, .zero, .zero, .zero, .zero, .zero, .zero⟩

/-- The wordwise exclusive or of two blocks. -/
def xor (a b : Block) : Block :=
  -- Rows in the same place are combined.
  ⟨a.r0.xor b.r0, a.r1.xor b.r1, a.r2.xor b.r2, a.r3.xor b.r3,
    a.r4.xor b.r4, a.r5.xor b.r5, a.r6.xor b.r6, a.r7.xor b.r7⟩

/-- Every row permuted. -/
def permuteRows (block : Block) : Block :=
  -- The rows do not touch one another.
  ⟨block.r0.permute, block.r1.permute, block.r2.permute, block.r3.permute,
    block.r4.permute, block.r5.permute, block.r6.permute, block.r7.permute⟩

/-- The square of eight by eight pairs of words mirrored at its diagonal. -/
def transpose (block : Block) : Block :=
  -- Row `i` of the result holds the pairs in place `i` of all rows.
  let ⟨a, b, c, d, e, f, g, h⟩ := block
  ⟨⟨a.w0, a.w1, b.w0, b.w1, c.w0, c.w1, d.w0, d.w1,
      e.w0, e.w1, f.w0, f.w1, g.w0, g.w1, h.w0, h.w1⟩,
    ⟨a.w2, a.w3, b.w2, b.w3, c.w2, c.w3, d.w2, d.w3,
      e.w2, e.w3, f.w2, f.w3, g.w2, g.w3, h.w2, h.w3⟩,
    ⟨a.w4, a.w5, b.w4, b.w5, c.w4, c.w5, d.w4, d.w5,
      e.w4, e.w5, f.w4, f.w5, g.w4, g.w5, h.w4, h.w5⟩,
    ⟨a.w6, a.w7, b.w6, b.w7, c.w6, c.w7, d.w6, d.w7,
      e.w6, e.w7, f.w6, f.w7, g.w6, g.w7, h.w6, h.w7⟩,
    ⟨a.w8, a.w9, b.w8, b.w9, c.w8, c.w9, d.w8, d.w9,
      e.w8, e.w9, f.w8, f.w9, g.w8, g.w9, h.w8, h.w9⟩,
    ⟨a.w10, a.w11, b.w10, b.w11, c.w10, c.w11, d.w10, d.w11,
      e.w10, e.w11, f.w10, f.w11, g.w10, g.w11, h.w10, h.w11⟩,
    ⟨a.w12, a.w13, b.w12, b.w13, c.w12, c.w13, d.w12, d.w13,
      e.w12, e.w13, f.w12, f.w13, g.w12, g.w13, h.w12, h.w13⟩,
    ⟨a.w14, a.w15, b.w14, b.w15, c.w14, c.w15, d.w14, d.w15,
      e.w14, e.w15, f.w14, f.w15, g.w14, g.w15, h.w14, h.w15⟩⟩

/-- Two blocks compressed into one. -/
def compress (left right : Block) : Block :=
  -- Rows are permuted, then columns of pairs, and the input is added again.
  let input := left.xor right
  input.xor input.permuteRows.transpose.permuteRows.transpose

/-- The block whose words stand least significant octet first. -/
def ofBytes (bytes : Bytes) : Block :=
  -- Every 128 octets make a row.
  let rows := ((Bytes.chunks 128 bytes).map fun part =>
    Row.ofWords (Hash.Word.ofBytesLeastFirst part)).toArray
  let row (place : Nat) := rows.getD place .zero
  ⟨row 0, row 1, row 2, row 3, row 4, row 5, row 6, row 7⟩

/-- The octets of a block, least significant first within each word. -/
def toBytes (block : Block) : Bytes :=
  -- Rows follow one another.
  [block.r0, block.r1, block.r2, block.r3, block.r4, block.r5, block.r6, block.r7].flatMap
    fun row => Hash.Word.toBytesLeastFirst row.words

instance : Inhabited Block := ⟨zero⟩

end Block

end Countersign.Kdf
