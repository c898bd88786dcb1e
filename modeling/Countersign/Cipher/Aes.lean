import Countersign.Bytes

/-! The block cipher AES with keys of 256 bits. -/

namespace Countersign.Cipher

/-- A polynomial over two elements, of degree below eight, times the variable. -/
def double (octet : UInt8) : UInt8 :=
  -- What overflows is reduced by the field polynomial.
  if octet &&& 0x80 = 0 then octet <<< 1 else (octet <<< 1) ^^^ 0x1B

/-- The product of two elements of the field of 256 elements. -/
def product (left right : UInt8) : UInt8 :=
  -- One doubling of the left factor for each bit of the right one.
  ((List.range 8).foldl (fun (state : UInt8 × UInt8) place =>
    let (sum, factor) := state
    (if (right >>> UInt8.ofNat place) &&& 1 = 0 then sum else sum ^^^ factor, double factor))
    (0, left)).1

/-- The multiplicative inverse in that field; zero has itself. -/
def reciprocal (octet : UInt8) : UInt8 :=
  -- The inverse is the 254th power, a product of seven repeated squares.
  ((List.range 7).foldl (fun (state : UInt8 × UInt8) _ =>
    let square := product state.1 state.1
    (square, product state.2 square)) (octet, 1)).2

/-- An octet with its bits turned to the left. -/
def turn (octet count : UInt8) : UInt8 := (octet <<< count) ||| (octet >>> (8 - count))

/-- The substitute of an octet. -/
def substitute (octet : UInt8) : UInt8 :=
  -- An affine map over the bits of the reciprocal.
  let value := reciprocal octet
  value ^^^ turn value 1 ^^^ turn value 2 ^^^ turn value 3 ^^^ turn value 4 ^^^ 0x63

/-- All substitutes, in the order of the octets. -/
def substitutes : Array UInt8 := (Array.range 256).map fun value => substitute (UInt8.ofNat value)

/-- The substitute of an octet, looked up. -/
def lookUp (octet : UInt8) : UInt8 := substitutes.getD octet.toNat 0

/-- The words of four octets that the round keys are made of, extended by the given count. -/
def extendKey (words : Array Bytes) (count : Nat) : Array Bytes :=
  -- Every eighth word is turned, substituted and marked; the one midway is substituted.
  (List.range' words.size count).foldl (fun words index =>
    let last := words.getD (index - 1) []
    let mixed :=
      if index % 8 = 0 then
        let turned := (last.drop 1 ++ last.take 1).map lookUp
        let mark := (List.range (index / 8 - 1)).foldl (fun value _ => double value) 1
        Bytes.xor turned [mark, 0, 0, 0]
      else if index % 8 = 4 then last.map lookUp
      else last
    words.push (Bytes.xor (words.getD (index - 8) []) mixed)) words

/-- The fifteen round keys of a key of thirty-two octets. -/
def roundKeys (key : FixedBytes 32) : List Bytes :=
  -- Sixty words make fifteen keys of sixteen octets.
  let words := extendKey (Bytes.chunks 4 key.toBytes).toArray 52
  Bytes.chunks 16 words.toList.flatten

/-- The octets of a block moved within their rows. -/
def shiftRows (block : Bytes) : Bytes :=
  -- Row `r` of the column-wise square moves by `r` columns.
  let source := block.toArray
  (List.range 16).map fun place => source.getD ((place + 4 * (place % 4)) % 16) 0

/-- One column of four octets multiplied by the fixed matrix. -/
def mixColumn (column : Bytes) : Bytes :=
  -- Every row of the matrix is the first one turned.
  let source := column.toArray
  (List.range 4).map fun row =>
    let octet (step : Nat) := source.getD ((row + step) % 4) 0
    double (octet 0) ^^^ double (octet 1) ^^^ octet 1 ^^^ octet 2 ^^^ octet 3

/-- A block of sixteen octets encrypted under a key. -/
def encryptBlock (key : FixedBytes 32) (block : Bytes) : Bytes :=
  -- Thirteen full rounds lie between the first key and the last, unmixed round.
  let keys := (roundKeys key).toArray
  let full (block : Bytes) (round : Nat) : Bytes :=
    let shifted := shiftRows (block.map lookUp)
    Bytes.xor ((Bytes.chunks 4 shifted).flatMap mixColumn) (keys.getD round [])
  let middle := (List.range' 1 13).foldl full (Bytes.xor block (keys.getD 0 []))
  Bytes.xor (shiftRows (middle.map lookUp)) (keys.getD 14 [])

end Countersign.Cipher
