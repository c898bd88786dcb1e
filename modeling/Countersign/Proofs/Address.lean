import Countersign.Address
import Countersign.Proofs.Hex

/-! Spellings of addresses: which texts are read as an address, and why all others are refused. -/

namespace Countersign

/-- What is left of a text behind a mark. -/
theorem Hex.dropMark?_eq_some_iff {mark text rest : String} :
    dropMark? mark text = some rest ↔ text = mark ++ rest := by
  constructor
  · intro dropped
    -- Behind a prefix stands what is left when its length is dropped.
    rw [dropMark?] at dropped
    split at dropped
    · rename_i marked
      obtain ⟨behind, same⟩ := List.isPrefixOf_iff_prefix.mp marked
      cases dropped
      rw [← String.toList_inj, String.toList_append, String.toList_ofList, ← String.length_toList,
        ← same, List.drop_left]
    · cases dropped
  · rintro rfl
    exact dropMark?_append mark rest

/-- Nothing is dropped exactly where the mark does not stand in front. -/
theorem Hex.dropMark?_eq_none_iff {mark text : String} :
    dropMark? mark text = none ↔ ¬ mark.toList <+: text.toList := by
  -- The test is the only branch.
  rw [dropMark?, ← List.isPrefixOf_iff_prefix]
  split <;> simp_all

namespace Address

variable {text digits mark : String} {address : Address}

/-- A text and its digits, behind a mark that is taken off if it is there. -/
inductive Marked : String → String → Prop
  /-- The mark `0x` is taken off. -/
  | lower (digits : String) : Marked ("0x" ++ digits) digits
  /-- So is the mark `0X`. -/
  | upper (digits : String) : Marked ("0X" ++ digits) digits
  /-- Without a mark the text is all digits. -/
  | bare {digits : String} (noLower : ¬ "0x".toList <+: digits.toList)
    (noUpper : ¬ "0X".toList <+: digits.toList) : Marked digits digits

/-- The digits of a text are what stands behind its mark, or all of it where it has none. -/
theorem bareDigits_eq_iff : bareDigits text = digits ↔ Marked text digits := by
  constructor
  · rintro rfl
    -- The small mark is tried before the capital one, and a text has one of them at most.
    rw [bareDigits]
    cases lower : Hex.dropMark? "0x" text with
    | some rest =>
      rw [Hex.dropMark?_eq_some_iff.mp lower]
      exact .lower rest
    | none =>
      cases upper : Hex.dropMark? "0X" text with
      | some rest =>
        rw [Hex.dropMark?_eq_some_iff.mp upper]
        exact .upper rest
      | none =>
        exact .bare (Hex.dropMark?_eq_none_iff.mp lower) (Hex.dropMark?_eq_none_iff.mp upper)
  · intro marked
    cases marked with
    | lower =>
      rw [bareDigits, Hex.dropMark?_append]
      rfl
    | upper =>
      -- The two marks differ in their second character.
      have other : Hex.dropMark? "0x" ("0X" ++ digits) = none := by
        rw [Hex.dropMark?_eq_none_iff]
        simp
      rw [bareDigits, other, Hex.dropMark?_append]
      rfl
    | bare noLower noUpper =>
      rw [bareDigits, Hex.dropMark?_eq_none_iff.mpr noLower, Hex.dropMark?_eq_none_iff.mpr noUpper]
      rfl

/-- Digits of either letter case that are those of an address. -/
def Spells (digits : String) (address : Address) : Prop :=
  -- Only the lowercase spelling is written for the address itself.
  digits.toList.map Char.toLower = Hex.digits address.toBytes

/-- An address is spelled with forty octets of text. -/
theorem Spells.length_ofText (spells : Spells digits address) :
    (Bytes.ofText digits).length = 40 := by
  -- There are as many octets as digits are written for the address.
  have octets := Hex.decodeOctets_eq_ok_iff.mp (Hex.decode_eq_ok_iff.mpr spells)
  have length := congrArg List.length octets
  rwa [List.length_map, Hex.length_digits, address.length_toBytes] at length

/-- A text is read as an address if its digits spell it, and only then. -/
theorem parse_eq_ok_iff : parse text = .ok address ↔ Spells (bareDigits text) address := by
  constructor
  · intro read
    -- Of the three ways through the reader only the one with forty valid digits succeeds.
    simp only [parse] at read
    split at read
    · cases read
    · split at read
      · cases read
      · rename_i bytes octets
        rw [ofBytes] at read
        split at read
        · rename_i exact
          cases read
          rw [FixedBytes.ofBytes?_eq_some_iff.mp exact] at octets
          exact Hex.decode_eq_ok_iff.mp octets
        · cases read
  · intro spells
    -- Conversely the length and the digits pass both tests.
    have octets : Hex.decodeOctets (Bytes.ofText (bareDigits text)) = .ok address.toBytes :=
      Hex.decode_eq_ok_iff.mpr spells
    have exact : FixedBytes.ofBytes? address.toBytes = some address :=
      FixedBytes.ofBytes?_eq_some_iff.mpr rfl
    simp [parse, spells.length_ofText, octets, ofBytes, exact]

/-- A text of any other size is refused as a whole. -/
theorem parse_eq_invalidText_iff :
    parse text = .error (.invalidText text) ↔ (Bytes.ofText (bareDigits text)).length ≠ 40 := by
  constructor
  · intro refused
    -- Behind the test of the length no error is about the text as a whole.
    simp only [parse] at refused
    split at refused
    · assumption
    · split at refused
      · cases refused
      · rw [ofBytes] at refused
        split at refused <;> cases refused
  · intro other
    rw [parse, if_pos other]

/-- A text of the right size that spells no address is refused for one of its digits. -/
theorem exists_invalidHex_iff : (∃ cause, parse text = .error (.invalidHex cause)) ↔
    (Bytes.ofText (bareDigits text)).length = 40 ∧
      ∀ address, ¬ Spells (bareDigits text) address := by
  constructor
  · rintro ⟨cause, refused⟩
    constructor
    · by_contra other
      rw [parse_eq_invalidText_iff.mpr other] at refused
      cases refused
    · intro address spells
      rw [parse_eq_ok_iff.mpr spells] at refused
      cases refused
  · rintro ⟨size, unspelled⟩
    cases octets : Hex.decodeOctets (Bytes.ofText (bareDigits text)) with
    | error cause => exact ⟨cause, by simp [parse, size, octets]⟩
    | ok bytes =>
      -- Twenty octets would be an address.
      have length := congrArg List.length (Hex.decodeOctets_eq_ok_iff.mp octets)
      rw [List.length_map, Hex.length_digits, size] at length
      have spells : Spells (bareDigits text) ⟨bytes, by omega⟩ := Hex.decode_eq_ok_iff.mp octets
      exact absurd spells (unspelled _)

/-- The digits that are written for an address spell it. -/
theorem spells_encode (address : Address) : Spells (Hex.encode address.toBytes) address := by
  -- The digits that are written are small already.
  rw [Spells, Hex.encode, String.toList_ofList, Hex.map_toLower_digits]

/-- An address reads back from its digits. -/
theorem parse_display (address : Address) : parse (display address) = .ok address := by
  -- The written mark is the small one, so the digits behind it are bare.
  have bare : bareDigits (display address) = Hex.encode address.toBytes :=
    bareDigits_eq_iff.mpr (.lower _)
  rw [parse_eq_ok_iff, bare]
  exact spells_encode address

end Address

end Countersign
