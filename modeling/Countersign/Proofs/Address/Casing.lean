import Countersign.Address.Checksum
import Countersign.Proofs.Address
import Mathlib.Data.List.Basic

/-! Letter cases of addresses: digits that mix small letters and capitals are read only where the
capitals are those of the checksum. -/

namespace Countersign.Address

variable {text digits mark : String} {address : Address}

/-- The marks that may stand in front of digits, and the empty one. -/
def marks : List String := ["", "0x", "0X"]

/-- The letter cases that are read: all letters small, all of them capitals, or the checksum. -/
def casings (address : Address) : List (List Char) :=
  [Hex.digits address.toBytes, (Hex.digits address.toBytes).map Char.toUpper,
    checksumDigits address]

/-- The letter of a mark is no digit. -/
theorem Spells.not_mem (spells : Spells digits address) (char : Char) (mark : char.toLower = 'x') :
    char ∉ digits.toList := by
  intro member
  -- In small letters it would be one of the sixteen digits.
  have lowered : 'x' ∈ Hex.digits address.toBytes := by
    rw [← spells, ← mark]
    exact List.mem_map_of_mem member
  have letters : ∀ value < 16, 'x' ≠ value.digitChar := by decide
  obtain ⟨value, small, same⟩ := Hex.exists_digitChar_of_mem lowered
  exact letters value small same

/-- Each of the three marks may stand in front of digits that spell an address. -/
theorem Spells.marked (spells : Spells digits address) (listed : mark ∈ marks) :
    Marked (mark ++ digits) digits := by
  simp only [marks, List.mem_cons, List.not_mem_nil, or_false] at listed
  rcases listed with rfl | rfl | rfl
  · rw [String.empty_append]
    -- Without a mark the digits must not look as if they had one.
    apply Marked.bare
    · intro marked
      exact spells.not_mem 'x' (by decide) (marked.subset (by decide))
    · intro marked
      exact spells.not_mem 'X' (by decide) (marked.subset (by decide))
  · exact .lower digits
  · exact .upper digits

/-- Marked digits have one of the three marks in front of them. -/
theorem Marked.exists_mark (marked : Marked text digits) :
    ∃ mark ∈ marks, text = mark ++ digits := by
  -- Having none counts as having the empty one.
  cases marked with
  | lower => exact ⟨"0x", by simp [marks], rfl⟩
  | upper => exact ⟨"0X", by simp [marks], rfl⟩
  | bare => exact ⟨"", by simp [marks], by rw [String.empty_append]⟩

/-! ### The checksum -/

/-- The octets whose digest the checksum is taken from. -/
def digest (address : Address) : FixedBytes 32 :=
  Hash.keccak256 (Bytes.ofText (Hex.encode address.toBytes))

/-- Forty digits of which each is a capital letter exactly where the half octet at its place in the
digest is at least eight: the high half of octet `i / 2` where `i` is even, else the low half. -/
structure IsChecksum (address : Address) (spelling : List Char) : Prop where
  /-- There are forty digits. -/
  length : spelling.length = 40
  /-- The digest decides about each of them. -/
  getElem?_eq : ∀ index < 40, ∃ digit octet,
    (Hex.digits address.toBytes)[index]? = some digit ∧
    (digest address).toBytes[index / 2]? = some octet ∧
    spelling[index]? = some
      (if 8 ≤ (if index % 2 = 0 then octet.toNat / 16 else octet.toNat % 16) then digit.toUpper
        else digit)

/-- The half octets of a sequence. -/
def halves (bytes : Bytes) : List Nat :=
  -- The high half comes first.
  bytes.flatMap fun octet => [octet.toNat / 16, octet.toNat % 16]

/-- The halves of an octet stand in front of those of the octets behind it. -/
theorem halves_cons (octet : UInt8) (rest : Bytes) :
    halves (octet :: rest) = octet.toNat / 16 :: octet.toNat % 16 :: halves rest := rfl

/-- There are twice as many halves as octets. -/
theorem length_halves (bytes : Bytes) : (halves bytes).length = 2 * bytes.length := by
  -- Every octet adds two.
  induction bytes with
  | nil => rfl
  | cons octet rest ih =>
    simp only [halves_cons, List.length_cons, ih]
    omega

/-- At an even place stands the high half of the octet at half of that place, at an odd one its low
half. -/
theorem getElem?_halves (bytes : Bytes) (index : Nat) : (halves bytes)[index]? =
    bytes[index / 2]?.map fun octet =>
      if index % 2 = 0 then octet.toNat / 16 else octet.toNat % 16 := by
  -- On the octets, two halves at a time.
  induction bytes generalizing index with
  | nil => simp [halves]
  | cons octet rest ih =>
    match index with
    | 0 => simp [halves_cons]
    | 1 => simp [halves_cons]
    | index + 2 =>
      rw [halves_cons, List.getElem?_cons_succ, List.getElem?_cons_succ, ih, Nat.add_mod_right,
        Nat.add_div_right _ (by decide), List.getElem?_cons_succ]

/-- Small digits take one octet each. -/
theorem ofText_encode (address : Address) : Bytes.ofText (Hex.encode address.toBytes) =
    (Hex.digits address.toBytes).map fun digit => UInt8.ofNat digit.toNat := by
  -- All of the digits are ASCII characters.
  rw [Hex.encode, Bytes.ofText_ofList, List.map_eq_flatMap]
  apply List.flatMap_congr
  intro digit member
  exact Hex.utf8EncodeChar_of_lt (Hex.isAscii_of_mem_digits member)

/-- A digit that a half octet of at least eight makes a capital letter, if it is a letter. -/
def cased (digit : Char) (half : Nat) : Char := if 8 ≤ half then digit.toUpper else digit

/-- The checksum pairs each digit with one half of the digest. -/
theorem checksumDigits_eq (address : Address) : checksumDigits address =
    List.zipWith cased (Hex.digits address.toBytes) (halves (digest address).toBytes) := by
  -- The digest is taken of the octets of the digits, which are their code points.
  rw [digest, ofText_encode]
  rfl

/-- An address has forty digits. -/
theorem length_lowercase (address : Address) : (Hex.digits address.toBytes).length = 40 := by
  -- Each of the twenty octets gives two.
  rw [Hex.length_digits, address.length_toBytes]

/-- The digits with the checksum are what the checksum asks for. -/
theorem isChecksum_checksumDigits (address : Address) :
    IsChecksum address (checksumDigits address) where
  length := by
    -- The sixty-four halves of the digest are more than enough.
    rw [checksumDigits_eq, List.length_zipWith, length_lowercase, length_halves,
      (digest address).length_toBytes]
    rfl
  getElem?_eq index inside := by
    -- The place is inside both sequences, so the two elements there decide.
    have lower : index < (Hex.digits address.toBytes).length := by rwa [length_lowercase]
    have octet : index / 2 < (digest address).toBytes.length := by
      rw [(digest address).length_toBytes]
      omega
    refine ⟨_, _, List.getElem?_eq_getElem lower, List.getElem?_eq_getElem octet, ?_⟩
    rw [checksumDigits_eq, List.getElem?_zipWith, getElem?_halves, List.getElem?_eq_getElem lower,
      List.getElem?_eq_getElem octet]
    rfl

/-! ### Which letter cases are read -/

/-- Making a capital of an ASCII character changes small letters only, leaves none of them, and
forgets nothing but the case. -/
theorem toUpper_ascii : ∀ char : Char, char.toNat < 128 →
    (char.isLower = false → char.toUpper = char) ∧ char.toUpper.isLower = false ∧
      char.toUpper.toLower = char.toLower := by
  -- The kernel goes through all hundred and twenty-eight characters.
  decide +kernel

/-- Making a small letter of an ASCII character changes capitals only, leaves none of them, and
forgets nothing but the case. -/
theorem toLower_ascii : ∀ char : Char, char.toNat < 128 →
    (char.isUpper = false → char.toLower = char) ∧ char.toLower.isUpper = false ∧
      char.toLower.toUpper = char.toUpper := by
  -- Again it goes through all of them.
  decide +kernel

/-- A small letter that has been made a capital or not is made small again. -/
theorem toLower_cased {digit : Char} (ascii : digit.toNat < 128) (small : digit.toLower = digit)
    (half : Nat) : (cased digit half).toLower = digit := by
  -- Capitals are undone, and what was left alone was small.
  obtain ⟨-, -, back⟩ := toUpper_ascii digit ascii
  rw [cased]
  split
  · rw [back, small]
  · exact small

/-- Changing the case of digits changes no more than that. -/
theorem map_toLower_zipWith {digits : List Char} (ascii : ∀ digit ∈ digits, digit.toNat < 128)
    (small : digits.map Char.toLower = digits) {halves : List Nat}
    (enough : digits.length ≤ halves.length) :
    (List.zipWith cased digits halves).map Char.toLower = digits := by
  -- Digit by digit; halves that are left over do not count.
  induction digits generalizing halves with
  | nil => rfl
  | cons digit rest ih =>
    cases halves with
    | nil => simp at enough
    | cons half others =>
      obtain ⟨here, behind⟩ := List.forall_mem_cons.mp ascii
      obtain ⟨first, others_small⟩ := List.cons.inj small
      rw [List.zipWith_cons_cons, List.map_cons, toLower_cased here first,
        ih behind others_small (Nat.le_of_succ_le_succ enough)]

/-- Making capitals of the digits of an address and small letters of these gives the digits back. -/
theorem map_toLower_map_toUpper (address : Address) :
    ((Hex.digits address.toBytes).map Char.toUpper).map Char.toLower =
      Hex.digits address.toBytes := by
  -- Capitals do not matter to small letters, and the digits are small.
  rw [List.map_map]
  refine Eq.trans (List.map_congr_left fun digit member => ?_) (Hex.map_toLower_digits _)
  exact (toUpper_ascii digit (Hex.isAscii_of_mem_digits member)).2.2

/-- All letter cases that are read are those of the address. -/
theorem spells_of_mem_casings (listed : digits.toList ∈ casings address) :
    Spells digits address := by
  have small := Hex.map_toLower_digits address.toBytes
  simp only [casings, List.mem_cons, List.not_mem_nil, or_false] at listed
  rw [Spells]
  -- In each of the three cases small letters are made of what is written.
  rcases listed with same | same | same
  · rw [same, small]
  · rw [same, map_toLower_map_toUpper]
  · rw [same, checksumDigits_eq]
    apply map_toLower_zipWith (fun digit member => Hex.isAscii_of_mem_digits member) small
    -- The digest has more halves than the address has digits.
    rw [length_lowercase, length_halves, (digest address).length_toBytes]
    decide

/-- What spells an address is ASCII. -/
theorem Spells.isAscii (spells : Spells digits address) {char : Char}
    (member : char ∈ digits.toList) : char.toNat < 128 := by
  -- In small letters every character is a digit, and only ASCII characters become digits.
  have lowered : char.toLower ∈ Hex.digits address.toBytes := by
    rw [← spells]
    exact List.mem_map_of_mem member
  obtain ⟨value, small, same⟩ := Hex.exists_digitChar_of_mem lowered
  exact Hex.toNat_lt_of_toLower small same

/-- Digits without small letters are capitals. -/
theorem Spells.eq_map_toUpper (spells : Spells digits address)
    (capitals : digits.toList.any Char.isLower = false) :
    digits.toList = (Hex.digits address.toBytes).map Char.toUpper := by
  rw [List.any_eq_false] at capitals
  rw [← spells, List.map_map]
  -- A character that is no small letter is its own capital, and also that of its small letter.
  refine Eq.trans (List.map_id _).symm (List.map_congr_left fun char member => ?_)
  have ascii := spells.isAscii member
  obtain ⟨capital, -, -⟩ := toUpper_ascii char ascii
  obtain ⟨-, -, back⟩ := toLower_ascii char ascii
  exact (capital (Bool.eq_false_iff.mpr (capitals char member))).symm.trans back.symm

/-- Digits without capitals are small. -/
theorem Spells.eq_digits (spells : Spells digits address)
    (small : digits.toList.any Char.isUpper = false) :
    digits.toList = Hex.digits address.toBytes := by
  rw [List.any_eq_false] at small
  rw [← spells]
  -- A character that is no capital is small already.
  refine Eq.trans (List.map_id _).symm (List.map_congr_left fun char member => ?_)
  obtain ⟨letter, -, -⟩ := toLower_ascii char (spells.isAscii member)
  exact (letter (Bool.eq_false_iff.mpr (small char member))).symm

/-- The digits of an address are in one of its letter cases if they do not mix small letters and
capitals, or mix them as the checksum does. -/
theorem mem_casings_iff (spells : Spells digits address) :
    digits.toList ∈ casings address ↔ digits.toList.any Char.isLower = false ∨
      digits.toList.any Char.isUpper = false ∨ digits.toList = checksumDigits address := by
  simp only [casings, List.mem_cons, List.not_mem_nil, or_false]
  constructor
  · rintro (small | capitals | checksum)
    · right
      left
      -- Small digits have no capitals among them.
      rw [small, ← Hex.map_toLower_digits, List.any_map, List.any_eq_false]
      intro digit member
      obtain ⟨-, small, -⟩ := toLower_ascii digit (Hex.isAscii_of_mem_digits member)
      simp [small]
    · left
      -- Capitals have no small letters among them.
      rw [capitals, List.any_map, List.any_eq_false]
      intro digit member
      obtain ⟨-, capital, -⟩ := toUpper_ascii digit (Hex.isAscii_of_mem_digits member)
      simp [capital]
    · exact .inr (.inr checksum)
  · rintro (capitals | small | checksum)
    -- Conversely an unmixed spelling is determined by the address.
    · exact .inr (.inl (spells.eq_map_toUpper capitals))
    · exact .inl (spells.eq_digits small)
    · exact .inr (.inr checksum)

/-! ### Reading with the checksum -/

/-- Digits of an address are refused where the letter case is none that is read. -/
theorem parseChecksum_of_spells (marked : Marked text digits) (spells : Spells digits address) :
    parseChecksum text = if digits.toList ∈ casings address then .ok address
      else .error (.invalidText ("bad checksum: " ++ text)) := by
  have bare := bareDigits_eq_iff.mpr marked
  have read : parse text = .ok address := by
    rw [parse_eq_ok_iff, bare]
    exact spells
  -- The reader asks the same questions one after another: small letters, capitals, checksum.
  simp only [parseChecksum, read, bare, mem_casings_iff spells, bind, Except.bind, throw, throwThe,
    MonadExceptOf.throw, pure, Except.pure]
  cases digits.toList.any Char.isLower
  · simp
  · cases digits.toList.any Char.isUpper
    · simp
    · by_cases checksum : digits.toList = checksumDigits address <;> simp [checksum]

/-- With the checksum just the three letter cases are read, behind any of the marks. -/
theorem parseChecksum_eq_ok_iff : parseChecksum text = .ok address ↔
    ∃ mark ∈ marks, ∃ digits ∈ casings address, text = mark ++ String.ofList digits := by
  constructor
  · intro read
    -- Whatever is read with the checksum is read without it.
    obtain ⟨other, parsed, -⟩ := bind_eq_ok_iff.mp read
    have marked : Marked text (bareDigits text) := bareDigits_eq_iff.mp rfl
    have spells := parse_eq_ok_iff.mp parsed
    rw [parseChecksum_of_spells marked spells] at read
    split at read
    · rename_i listed
      cases read
      obtain ⟨mark, known, same⟩ := marked.exists_mark
      exact ⟨mark, known, _, listed, by rw [String.ofList_toList]; exact same⟩
    · cases read
  · rintro ⟨mark, known, digits, listed, rfl⟩
    have inside : (String.ofList digits).toList ∈ casings address := by
      rwa [String.toList_ofList]
    -- All three letter cases spell the address.
    have spells := spells_of_mem_casings inside
    rw [parseChecksum_of_spells (spells.marked known) spells, if_pos inside]

/-- An address is read from its forty digits behind at most one mark, whatever the case of their
letters; another number of digits is refused as a whole, and other characters as such. Where the
checksum is asked for as well, just those spellings are read that mix no small letters and capitals
or are written with the checksum, and other letter cases of the same digits are refused. -/
theorem parse_spellings (text : String) (address : Address) :
    (parse text = .ok address ↔ ∃ digits, Marked text digits ∧ Spells digits address) ∧
    (parse text = .error (.invalidText text) ↔
      ∃ digits, Marked text digits ∧ (Bytes.ofText digits).length ≠ 40) ∧
    ((∃ cause, parse text = .error (.invalidHex cause)) ↔
      ∃ digits, Marked text digits ∧ (Bytes.ofText digits).length = 40 ∧
        ∀ other, ¬ Spells digits other) ∧
    (parseChecksum text = .ok address ↔
      ∃ mark ∈ marks, ∃ digits ∈ casings address, text = mark ++ String.ofList digits) ∧
    parseChecksum (displayChecksum address) = .ok address ∧
    (∀ mark ∈ marks, ∀ digits, Spells digits address → digits.toList ∉ casings address →
      parseChecksum (mark ++ digits) =
        .error (.invalidText ("bad checksum: " ++ (mark ++ digits)))) ∧
    IsChecksum address (checksumDigits address) := by
  have marked : Marked text (bareDigits text) := bareDigits_eq_iff.mp rfl
  -- A text has its digits in one way only, so each part is about these.
  have unique {digits : String} (other : Marked text digits) : digits = bareDigits text :=
    (bareDigits_eq_iff.mpr other).symm
  refine ⟨?_, ?_, ?_, parseChecksum_eq_ok_iff, ?_, ?_, isChecksum_checksumDigits address⟩
  · rw [parse_eq_ok_iff]
    constructor
    · intro spells
      exact ⟨_, marked, spells⟩
    · rintro ⟨digits, other, spells⟩
      rwa [← unique other]
  · rw [parse_eq_invalidText_iff]
    constructor
    · intro size
      exact ⟨_, marked, size⟩
    · rintro ⟨digits, other, size⟩
      rwa [← unique other]
  · rw [exists_invalidHex_iff]
    constructor
    · intro refused
      exact ⟨_, marked, refused⟩
    · rintro ⟨digits, other, refused⟩
      rwa [← unique other]
  -- What is displayed has the small mark and the checksum.
  · exact parseChecksum_eq_ok_iff.mpr
      ⟨"0x", by simp [marks], checksumDigits address, by simp [casings], rfl⟩
  · intro mark known digits spells unlisted
    rw [parseChecksum_of_spells (spells.marked known) spells, if_neg unlisted]

end Countersign.Address
