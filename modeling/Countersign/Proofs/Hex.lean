import Countersign.Address
import Countersign.Proofs.Bytes
import Countersign.Proofs.Outcome

/-! Digits in letters of either case are read as the octets whose lowercase digits they match. -/

namespace Countersign

/-- The octets of a text are those of its characters in turn. -/
theorem Bytes.ofText_ofList (chars : List Char) :
    Bytes.ofText (String.ofList chars) = chars.flatMap String.utf8EncodeChar := by
  -- A text is kept as the octets of its characters.
  simp [Bytes.ofText, String.ofList, List.utf8Encode]

namespace Hex

variable {char : Char} {value : Nat}

/-! ### Digits of either letter case -/

/-- The characters of the first hundred and twenty-eight codes are ASCII characters. -/
theorem ascii_ofNat : ∀ code < 128, (Char.ofNat code).toNat < 128 := by
  -- Each of these codes is that of a character, which keeps it.
  decide

/-- A property of all ASCII characters is decided by going through their codes. -/
instance decidableAscii (p : Char → Prop) [DecidablePred p] :
    Decidable (∀ char : Char, char.toNat < 128 → p char) :=
  decidable_of_iff (∀ code < 128, p (Char.ofNat code))
    ⟨fun all char ascii => Char.ofNat_toNat char ▸ all char.toNat ascii,
      fun all code small => all _ (ascii_ofNat code small)⟩

/-- Beyond ASCII no character has another one as its small letter. -/
theorem toLower_of_le (beyond : 128 ≤ char.toNat) : char.toLower = char := by
  -- Only the letters from `A` to `Z` are changed.
  refine dif_neg fun capital => ?_
  have bound : char.toNat ≤ 90 := capital.2
  omega

/-- The sixteen digits are ASCII characters. -/
theorem toNat_digitChar_lt : ∀ value < 16, value.digitChar.toNat < 128 := by
  -- There are sixteen of them.
  decide

/-- What has a digit as its lowercase spelling is an ASCII character. -/
theorem toNat_lt_of_toLower (small : value < 16) (lowered : char.toLower = value.digitChar) :
    char.toNat < 128 := by
  have bound := toNat_digitChar_lt value small
  -- Otherwise the character would be left as it is, and be a digit beyond ASCII.
  by_contra beyond
  rw [← lowered, toLower_of_le (Nat.not_lt.mp beyond)] at bound
  exact beyond bound

/-- A character beyond ASCII is no digit. -/
theorem hexValue?_of_le (beyond : 128 ≤ char.toNat) : Text.hexValue? char = none := by
  have above (bound : Char) (low : bound.toNat < 128) : ¬ char ≤ bound := by
    intro below
    have codes : char.toNat ≤ bound.toNat := below
    omega
  -- It is above the end of each of the three ranges.
  have digit := above '9' (by decide)
  have capital := above 'F' (by decide)
  have letter := above 'f' (by decide)
  simp [Text.hexValue?, Text.isDigit, digit, capital, letter]

/-- The values of ASCII characters are those of hexadecimal digits. -/
theorem hexValue?_lt : ∀ char : Char, char.toNat < 128 →
    ∀ value ∈ Text.hexValue? char, value < 16 := by
  -- All hundred and twenty-eight characters are tried.
  decide +kernel

/-- An ASCII character has a value as a digit exactly if its small letter is that digit. -/
theorem hexValue?_ascii : ∀ char : Char, char.toNat < 128 →
    ∀ value < 16, Text.hexValue? char = some value ↔ char.toLower = value.digitChar := by
  -- Each of them is tried with each of the sixteen values.
  decide +kernel

/-- A character has a value as a digit exactly if its lowercase spelling is that digit. -/
theorem hexValue?_eq_some_iff :
    Text.hexValue? char = some value ↔ value < 16 ∧ char.toLower = value.digitChar := by
  -- Beyond ASCII there is neither a value nor a digit.
  by_cases small : char.toNat < 128
  · have below := hexValue?_lt char small value
    have same := hexValue?_ascii char small value
    exact ⟨fun read => ⟨below read, (same (below read)).mp read⟩,
      fun both => (same both.1).mpr both.2⟩
  · rw [hexValue?_of_le (by omega)]
    constructor
    · intro none
      cases none
    · rintro ⟨digit, lowered⟩
      exact absurd (toNat_lt_of_toLower digit lowered) small

/-- The lowercase spelling of an octet, taken as a character. -/
def lowered (octet : UInt8) : Char := (Char.ofNat octet.toNat).toLower

/-- An octet is read as a digit exactly if its lowercase spelling is that digit. -/
theorem digitAt_eq_ok_iff {octet : UInt8} (position : Nat) :
    digitAt octet position = .ok value ↔ value < 16 ∧ lowered octet = value.digitChar := by
  -- The position is for the error only.
  rw [lowered, ← hexValue?_eq_some_iff, digitAt]
  cases Text.hexValue? (Char.ofNat octet.toNat) <;> simp

/-! ### Octets -/

/-- An octet that is made of two digits has these digits. -/
theorem octetDigits_ofNat {high low : Nat} (highSmall : high < 16) (lowSmall : low < 16) :
    octetDigits (UInt8.ofNat (high * 16 + low)) = [high.digitChar, low.digitChar] := by
  have code : (UInt8.ofNat (high * 16 + low)).toNat = high * 16 + low := by
    rw [UInt8.toNat_ofNat']
    -- Two digits make less than two hundred and fifty-six.
    omega
  rw [octetDigits, code, show (high * 16 + low) / 16 = high by omega,
    show (high * 16 + low) % 16 = low by omega]

/-- Octets are read as pairs of digits exactly if the lowercase spelling of those digits is the
one that is written for the result. -/
theorem pairs_eq_ok_iff {position : Nat} {text bytes : Bytes} :
    pairs position text = .ok bytes ↔ text.map lowered = digits bytes := by
  -- Two digits at a time, as the reader goes; a single one is never right.
  induction position, text using pairs.induct generalizing bytes with
  | case1 position =>
    cases bytes <;> simp [pairs, digits, octetDigits]
  | case2 position octet =>
    cases bytes <;> simp [pairs, digits, octetDigits]
  | case3 position high low rest ih =>
    constructor
    · intro read
      rw [pairs] at read
      obtain ⟨upper, highRead, read⟩ := bind_eq_ok_iff.mp read
      obtain ⟨lower, lowRead, read⟩ := bind_eq_ok_iff.mp read
      obtain ⟨tail, tailRead, made⟩ := bind_eq_ok_iff.mp read
      cases made
      obtain ⟨highSmall, highSpelled⟩ := (digitAt_eq_ok_iff position).mp highRead
      obtain ⟨lowSmall, lowSpelled⟩ := (digitAt_eq_ok_iff (position + 1)).mp lowRead
      rw [digits, List.flatMap_cons, octetDigits_ofNat highSmall lowSmall]
      simp [highSpelled, lowSpelled, ih.mp tailRead, digits]
    · intro spelled
      cases bytes with
      | nil => simp [digits] at spelled
      | cons octet tail =>
        simp only [digits, List.flatMap_cons, octetDigits, List.map_cons, List.cons_append,
          List.nil_append, List.cons.injEq] at spelled
        obtain ⟨highSpelled, lowSpelled, tailSpelled⟩ := spelled
        have highRead := digitAt_eq_ok_iff position |>.mpr
          ⟨by have := octet.toNat_lt; omega, highSpelled⟩
        have lowRead := digitAt_eq_ok_iff (position + 1) |>.mpr
          ⟨Nat.mod_lt _ (by decide), lowSpelled⟩
        -- The octet is put together again from its halves.
        have whole : octet.toNat / 16 * 16 + octet.toNat % 16 = octet.toNat := by omega
        simp only [pairs, highRead, lowRead, ih.mpr tailSpelled, bind, Except.bind, pure,
          Except.pure, whole, UInt8.ofNat_toNat]

/-- There are two digits for each octet. -/
theorem length_digits (bytes : Bytes) : (digits bytes).length = 2 * bytes.length := by
  -- Octet by octet.
  induction bytes with
  | nil => rfl
  | cons octet rest ih =>
    rw [digits, List.flatMap_cons, List.length_append, ← digits, ih, octetDigits]
    simp
    omega

/-- An odd number of digits is never the right one. -/
theorem decodeOctets_eq_ok_iff {text bytes : Bytes} :
    decodeOctets text = .ok bytes ↔ text.map lowered = digits bytes := by
  rw [decodeOctets]
  split
  · rename_i odd
    constructor
    · intro impossible
      cases impossible
    · intro spelled
      -- Written digits are even in number.
      have length := congrArg List.length spelled
      rw [List.length_map, length_digits] at length
      omega
  · exact pairs_eq_ok_iff

/-- Every digit that is written is one of the sixteen. -/
theorem exists_digitChar_of_mem {bytes : Bytes} (member : char ∈ digits bytes) :
    ∃ value < 16, char = value.digitChar := by
  obtain ⟨octet, -, digit⟩ := List.mem_flatMap.mp member
  -- Both halves of an octet are below sixteen.
  have bound := octet.toNat_lt
  simp only [octetDigits, List.mem_cons, List.not_mem_nil, or_false] at digit
  rcases digit with rfl | rfl
  · exact ⟨_, by omega, rfl⟩
  · exact ⟨_, by omega, rfl⟩

/-- Every digit that is written is an ASCII character. -/
theorem isAscii_of_mem_digits {bytes : Bytes} (member : char ∈ digits bytes) :
    char.toNat < 128 := by
  -- It is one of the sixteen.
  obtain ⟨value, small, rfl⟩ := exists_digitChar_of_mem member
  exact toNat_digitChar_lt value small

/-! ### Texts -/

/-- An ASCII character takes one octet, which is its code. -/
theorem utf8EncodeChar_of_lt (ascii : char.toNat < 128) :
    String.utf8EncodeChar char = [UInt8.ofNat char.toNat] := by
  -- The first range of the encoding is that of ASCII.
  have code : char.val.toNat ≤ 127 := Nat.le_of_lt_succ ascii
  simp only [String.utf8EncodeChar, if_pos code]
  rfl

/-- A character beyond ASCII begins with an octet beyond ASCII. -/
theorem exists_utf8EncodeChar_of_le (beyond : 128 ≤ char.toNat) :
    ∃ first more, String.utf8EncodeChar char = first :: more ∧ 128 ≤ first.toNat := by
  have code : ¬ char.val.toNat ≤ 127 := Nat.not_le_of_lt beyond
  simp only [String.utf8EncodeChar, if_neg code]
  -- Two, three or four octets, of which the first has its highest bit set.
  split
  · exact ⟨_, _, rfl, by rw [UInt8.toNat_ofNat']; omega⟩
  · split
    · exact ⟨_, _, rfl, by rw [UInt8.toNat_ofNat']; omega⟩
    · exact ⟨_, _, rfl, by rw [UInt8.toNat_ofNat']; omega⟩

/-- The character of an octet has the octet as its code. -/
theorem toNat_ofNat_octet (octet : UInt8) : (Char.ofNat octet.toNat).toNat = octet.toNat := by
  -- No code below two hundred and fifty-six is a surrogate.
  have codes : ∀ code < 256, (Char.ofNat code).toNat = code := by decide +kernel
  exact codes octet.toNat octet.toNat_lt

/-- The octets of a text and its characters have the same lowercase spelling, if that is ASCII. -/
theorem map_lowered_iff {chars spelling : List Char}
    (ascii : ∀ char ∈ spelling, char.toNat < 128) :
    (chars.flatMap String.utf8EncodeChar).map lowered = spelling ↔
      chars.map Char.toLower = spelling := by
  induction chars generalizing spelling with
  | nil => rfl
  | cons char rest ih =>
    by_cases small : char.toNat < 128
    · have same : lowered (UInt8.ofNat char.toNat) = char.toLower := by
        rw [lowered, UInt8.toNat_ofNat', Nat.mod_eq_of_lt (by omega), Char.ofNat_toNat]
      rw [List.flatMap_cons, utf8EncodeChar_of_lt small, List.cons_append, List.nil_append,
        List.map_cons, List.map_cons, same]
      cases spelling with
      | nil => simp
      | cons first others =>
        rw [List.cons.injEq, List.cons.injEq,
          ih fun other member => ascii other (List.mem_cons_of_mem _ member)]
    · -- Neither side can be ASCII where the character is not.
      obtain ⟨octet, more, encoded, beyond⟩ := exists_utf8EncodeChar_of_le (Nat.not_lt.mp small)
      have code := toNat_ofNat_octet octet
      have high : lowered octet = Char.ofNat octet.toNat := toLower_of_le (by omega)
      have upper : char.toLower = char := toLower_of_le (Nat.not_lt.mp small)
      rw [List.flatMap_cons, encoded, List.cons_append, List.map_cons, List.map_cons, high, upper]
      cases spelling with
      | nil => simp
      | cons first others =>
        have bound := ascii first List.mem_cons_self
        constructor
        · intro same
          rw [← (List.cons.inj same).1] at bound
          omega
        · intro same
          rw [← (List.cons.inj same).1] at bound
          omega

/-- Digits of either letter case are read as the octets whose lowercase spelling they have. -/
theorem decode_eq_ok_iff {text : String} {bytes : Bytes} :
    decode text = .ok bytes ↔ text.toList.map Char.toLower = digits bytes := by
  have octets : Bytes.ofText text = text.toList.flatMap String.utf8EncodeChar := by
    rw [← Bytes.ofText_ofList, String.ofList_toList]
  -- Octets beyond ASCII are no digits, so it does not matter that they are read one by one.
  rw [decode, decodeOctets_eq_ok_iff, octets,
    map_lowered_iff fun char member => isAscii_of_mem_digits member]

/-- The digits that are written are small. -/
theorem map_toLower_digits (bytes : Bytes) : (digits bytes).map Char.toLower = digits bytes := by
  -- So are all sixteen of them.
  have lowercase : ∀ value < 16, value.digitChar.toLower = value.digitChar := by decide
  refine (List.map_congr_left fun char member => ?_).trans (List.map_id _)
  obtain ⟨value, small, rfl⟩ := exists_digitChar_of_mem member
  exact lowercase value small

/-- The digits of an octet sequence read back as that sequence. -/
theorem decode_encode (bytes : Bytes) : decode (encode bytes) = .ok bytes := by
  -- What is written is its own lowercase spelling.
  rw [decode_eq_ok_iff, encode, String.toList_ofList, map_toLower_digits]

/-- A mark in front of a text is removed. -/
theorem dropMark?_append (mark text : String) : dropMark? mark (mark ++ text) = some text := by
  -- The mark is a prefix, and its length is dropped.
  simp [dropMark?, ← String.length_toList]

/-- Digits behind a mark read back as the octets that they were written for. -/
theorem decodeMarked_encodeMarked (bytes : Bytes) :
    decodeMarked (encodeMarked bytes) = .ok bytes := by
  -- The mark is dropped, and then the digits are read.
  rw [decodeMarked, encodeMarked, dropMark?_append, Option.getD_some, decode_encode]

end Hex

end Countersign
