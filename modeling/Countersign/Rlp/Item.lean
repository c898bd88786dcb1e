import Countersign.Bytes

/-! Recursive length-prefix items: their single written form, and the reading of the first one. -/

namespace Countersign.Rlp

/-- Why octets are not the written form of what they should hold. -/
inductive DecodeError where
  /-- The input stops inside an item, or where one should begin. -/
  | unexpectedEnd
  /-- Octets follow a complete transaction. -/
  | trailingBytes
  /-- A header is longer than the shortest one for its item. -/
  | nonCanonicalSize
  /-- An integer begins with a zero octet. -/
  | nonCanonicalInteger
  /-- An integer is too large for its field. -/
  | integerOverflow
  /-- A header and the length it declares exceed sixty-four bits together. -/
  | lengthOverflow
  /-- A string stands where a list should. -/
  | expectedList
  /-- A list stands where a string should. -/
  | expectedString
  /-- A list ends before its record is complete. -/
  | tooFewElements
  /-- A list goes on after its record is complete. -/
  | tooManyElements
  /-- A tag names no kind of transaction. -/
  | unknownKind (tag : Nat)
  /-- An address is not twenty octets long. -/
  | invalidAddressLength (length : Nat)
  /-- A text is not well-formed UTF-8. -/
  | invalidText
  deriving DecidableEq, Repr

/-- The wording of a decoding error. -/
def DecodeError.message : DecodeError → String
  | .unexpectedEnd => "unexpected end of input"
  | .trailingBytes => "trailing bytes after transaction"
  | .nonCanonicalSize => "length prefix is not in canonical form"
  | .nonCanonicalInteger => "integer has leading zero bytes"
  | .integerOverflow => "integer does not fit in the target width"
  | .lengthOverflow => "declared length overflows the address space"
  | .expectedList => "expected a list, found a string"
  | .expectedString => "expected a string, found a list"
  | .tooFewElements => "list has fewer elements than the record requires"
  | .tooManyElements => "list has more elements than the record allows"
  | .unknownKind tag => "unknown transaction type: " ++ toString tag
  | .invalidAddressLength length => "address must be 20 bytes, got " ++ toString length
  | .invalidText => "string is not valid UTF-8"

/-- One item: a string of octets, or a list given by the written forms of its elements. -/
inductive Item where
  /-- A string of octets. -/
  | octets (content : Bytes)
  /-- A list whose elements stand written one behind the other. -/
  | list (payload : Bytes)
  deriving DecidableEq, Repr

/-- The greatest length that a one-octet header can declare. -/
def shortLimit : Nat := 55

/-- The header of `length` octets, where `base` is the lead octet of the empty item. -/
def header (base length : Nat) : Bytes :=
  -- A short length is added to the base; a long one follows in its shortest big-endian octets.
  if length ≤ shortLimit then [UInt8.ofNat (base + length)]
  else
    let digits := Bytes.ofNat length
    UInt8.ofNat (base + shortLimit + digits.length) :: digits

/-- The lead octet of the empty string. -/
def stringBase : Nat := 0x80

/-- The lead octet of the empty list. -/
def listBase : Nat := 0xC0

/-- The written form of an item. -/
def Item.write : Item → Bytes
  | .octets content =>
    -- A single octet below the string base is its own written form.
    match content with
    | [octet] => if octet.toNat < stringBase then [octet] else header stringBase 1 ++ [octet]
    | _ => header stringBase content.length ++ content
  | .list payload => header listBase payload.length ++ payload

/-- The first `count` octets behind a header of the given width, and what follows them. -/
def cut (width count : Nat) (data : Bytes) : Except DecodeError (Bytes × Bytes) :=
  -- Sixty-four bits must hold the header and the length together, whatever the input holds.
  if Nat.pow 2 64 ≤ width + count then .error .lengthOverflow
  else if data.length < count then .error .unexpectedEnd
  else .ok (data.take count, data.drop count)

/-- The content of an item whose length stands in `width` octets, and what follows it. -/
def cutLong (width : Nat) (data : Bytes) : Except DecodeError (Bytes × Bytes) := do
  -- Leading zeros and lengths that fit a short header are refused.
  let (digits, behind) ← cut 1 width data
  if digits.head? = some 0 then throw .nonCanonicalSize
  let length := Bytes.toNat digits
  if length ≤ shortLimit then throw .nonCanonicalSize
  cut (1 + width) length behind

/-- The first item of an input that begins with the given octet, and what follows the item. -/
def Item.splitLead (lead : UInt8) (tail : Bytes) : Except DecodeError (Item × Bytes) :=
  -- The lead octet alone decides between the five forms.
  if lead.toNat < 0x80 then .ok (.octets [lead], tail)
  else if lead.toNat ≤ 0xB7 then do
    let (content, rest) ← cut 1 (lead.toNat - 0x80) tail
    match content with
    | [octet] => if octet.toNat < stringBase then throw .nonCanonicalSize
    | _ => pure ()
    return (.octets content, rest)
  else if lead.toNat ≤ 0xBF then do
    let (content, rest) ← cutLong (lead.toNat - 0xB7) tail
    return (.octets content, rest)
  else if lead.toNat ≤ 0xF7 then do
    let (payload, rest) ← cut 1 (lead.toNat - 0xC0) tail
    return (.list payload, rest)
  else do
    let (payload, rest) ← cutLong (lead.toNat - 0xF7) tail
    return (.list payload, rest)

/-- The first item of an input and what follows it; an empty input has no item. -/
def Item.split? : Bytes → Except DecodeError (Option (Item × Bytes))
  | [] => .ok none
  | lead :: tail => (Item.splitLead lead tail).map some

/-- Octets cut off leave a rest no longer than the input. -/
theorem length_of_cut {width count : Nat} {data part rest : Bytes}
    (found : cut width count data = .ok (part, rest)) : rest.length ≤ data.length := by
  -- Only the third branch succeeds, and it drops octets.
  unfold cut at found
  split at found
  · cases found
  · split at found
    · cases found
    · cases found; simp

/-- The same holds where the length stands in octets of its own. -/
theorem length_of_cutLong {width : Nat} {data part rest : Bytes}
    (found : cutLong width data = .ok (part, rest)) : rest.length ≤ data.length := by
  -- Both cuts shorten or keep the input.
  simp only [cutLong, bind, Except.bind] at found
  split at found
  · cases found
  · rename_i first firstCut
    obtain ⟨digits, behind⟩ := first
    simp only at found
    split at found
    · cases found
    · split at found
      · cases found
      · exact Nat.le_trans (length_of_cut found) (length_of_cut firstCut)

/-- Behind the first item stands less than the whole input. -/
theorem Item.length_of_split {data rest : Bytes} {item : Item}
    (found : Item.split? data = .ok (some (item, rest))) : rest.length < data.length := by
  -- The lead octet is always consumed.
  match data, found with
  | lead :: tail, found =>
    simp only [Item.split?, Except.map] at found
    split at found
    · cases found
    · rename_i pair splitFound
      obtain ⟨-, rfl⟩ : pair.1 = item ∧ pair.2 = rest := by simp_all
      suffices pair.2.length ≤ tail.length by simp; omega
      unfold Item.splitLead at splitFound
      split at splitFound
      · cases splitFound; simp
      · split at splitFound
        · simp only [bind, Except.bind] at splitFound
          split at splitFound
          · cases splitFound
          · rename_i first firstCut
            have bound := length_of_cut firstCut
            split at splitFound
            · split at splitFound
              · cases splitFound
              · cases splitFound; exact bound
            · cases splitFound; exact bound
        · split at splitFound
          · simp only [bind, Except.bind] at splitFound
            split at splitFound
            · cases splitFound
            · rename_i first firstCut
              cases splitFound; exact length_of_cutLong firstCut
          · split at splitFound
            · simp only [bind, Except.bind] at splitFound
              split at splitFound
              · cases splitFound
              · rename_i first firstCut
                cases splitFound; exact length_of_cut firstCut
            · simp only [bind, Except.bind] at splitFound
              split at splitFound
              · cases splitFound
              · rename_i first firstCut
                cases splitFound; exact length_of_cutLong firstCut

end Countersign.Rlp
