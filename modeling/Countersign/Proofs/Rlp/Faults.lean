import Countersign.Proofs.Rlp.Cursor

/-! Octets that do not begin with an item: what a header lacks or has too much of, and with which
error it is refused. -/

namespace Countersign.Rlp

/-- A short string fails with what is cut off for it. -/
theorem Item.splitLead_of_cut_error {lead : UInt8} {tail : Bytes} {error : DecodeError}
    (low : 0x80 ≤ lead.toNat) (high : lead.toNat ≤ 0xB7)
    (failed : cut 1 (lead.toNat - 0x80) tail = .error error) :
    Item.splitLead lead tail = .error error := by
  -- In this range nothing can fail before the cut.
  rw [Item.splitLead, if_neg (by omega), if_pos high, failed]
  rfl

/-- A single octet that could stand alone may not stand behind a header. -/
theorem Item.splitLead_of_own {lead octet : UInt8} {tail rest : Bytes}
    (low : 0x80 ≤ lead.toNat) (high : lead.toNat ≤ 0xB7)
    (found : cut 1 (lead.toNat - 0x80) tail = .ok ([octet], rest))
    (own : octet.toNat < stringBase) :
    Item.splitLead lead tail = .error .nonCanonicalSize := by
  -- The cut succeeds, and the test behind it does not.
  rw [Item.splitLead, if_neg (by omega), if_pos high, found]
  simp only [bind, Except.bind, if_pos own]
  rfl

/-- A long string is what its header cuts off. -/
theorem Item.splitLead_longString_eq {lead : UInt8} {tail : Bytes} (low : 0xB7 < lead.toNat)
    (high : lead.toNat ≤ 0xBF) :
    Item.splitLead lead tail =
      (cutLong (lead.toNat - 0xB7) tail).map fun (content, rest) => (.octets content, rest) := by
  -- The first two ranges end below this one.
  rw [Item.splitLead, if_neg (by omega), if_neg (by omega), if_pos high]
  cases cutLong (lead.toNat - 0xB7) tail <;> rfl

/-- A short list is what its header cuts off. -/
theorem Item.splitLead_shortList_eq {lead : UInt8} {tail : Bytes} (low : 0xBF < lead.toNat)
    (high : lead.toNat ≤ 0xF7) :
    Item.splitLead lead tail =
      (cut 1 (lead.toNat - 0xC0) tail).map fun (payload, rest) => (.list payload, rest) := by
  -- The first three ranges end below this one.
  rw [Item.splitLead, if_neg (by omega), if_neg (by omega), if_neg (by omega), if_pos high]
  cases cut 1 (lead.toNat - 0xC0) tail <;> rfl

/-- A long list is what its header cuts off. -/
theorem Item.splitLead_longList_eq {lead : UInt8} {tail : Bytes} (low : 0xF7 < lead.toNat) :
    Item.splitLead lead tail =
      (cutLong (lead.toNat - 0xF7) tail).map fun (payload, rest) => (.list payload, rest) := by
  -- The first four ranges end below this one.
  rw [Item.splitLead, if_neg (by omega), if_neg (by omega), if_neg (by omega), if_neg (by omega)]
  cases cutLong (lead.toNat - 0xF7) tail <;> rfl

/-- Octets cannot be cut off exactly when their end is beyond a word or beyond the data. -/
theorem cut_eq_error_iff {width count : Nat} {data : Bytes} {error : DecodeError} :
    cut width count data = .error error ↔
      2 ^ 64 ≤ width + count ∧ error = .lengthOverflow ∨
        width + count < 2 ^ 64 ∧ data.length < count ∧ error = .unexpectedEnd := by
  have words : Nat.pow 2 64 = 2 ^ 64 := rfl
  unfold cut
  -- The end is compared with the words first, and with the data only then.
  by_cases reached : Nat.pow 2 64 ≤ width + count
  · rw [if_pos reached]
    constructor
    · intro failed
      exact .inl ⟨by omega, (Except.error.inj failed).symm⟩
    · intro reasons
      rcases reasons with ⟨-, rfl⟩ | ⟨fits, -⟩
      · rfl
      · omega
  · rw [if_neg reached]
    by_cases missing : data.length < count
    · rw [if_pos missing]
      constructor
      · intro failed
        exact .inr ⟨by omega, missing, (Except.error.inj failed).symm⟩
      · intro reasons
        rcases reasons with ⟨wraps, -⟩ | ⟨-, -, rfl⟩
        · omega
        · rfl
    · rw [if_neg missing]
      constructor
      · intro failed
        cases failed
      · intro reasons
        rcases reasons with ⟨wraps, -⟩ | ⟨-, lacking, -⟩
        · omega
        · exact absurd lacking missing

/-- Behind the lead octet, no header is so long that a word could not say where it ends. -/
theorem cut_one_eq_error_iff {count : Nat} {data : Bytes} {error : DecodeError}
    (few : count < 256) :
    cut 1 count data = .error error ↔ data.length < count ∧ error = .unexpectedEnd := by
  rw [cut_eq_error_iff]
  constructor
  · intro reasons
    rcases reasons with ⟨reached, -⟩ | ⟨-, missing⟩
    -- An octet declares too little for that.
    · omega
    · exact missing
  · intro missing
    exact .inr ⟨by omega, missing⟩

/-- A length of the given width, or the content behind it, is not as it must be. -/
inductive BadLength (width : Nat) : Bytes → DecodeError → Prop
  /-- Octets of the length are missing. -/
  | lengthMissing {data : Bytes} (missing : data.length < width) :
    BadLength width data .unexpectedEnd
  /-- The length begins with a zero octet. -/
  | leadingZero {digits rest : Bytes} (digitsLength : digits.length = width)
    (zero : digits.head? = some 0) : BadLength width (digits ++ rest) .nonCanonicalSize
  /-- A short header could declare the length. -/
  | needless {digits rest : Bytes} (digitsLength : digits.length = width)
    (short : Bytes.toNat digits ≤ shortLimit) : BadLength width (digits ++ rest) .nonCanonicalSize
  /-- A word does not hold the header and the length together. -/
  | overflow {digits rest : Bytes} (digitsLength : digits.length = width)
    (minimal : digits.head? ≠ some 0) (reached : 2 ^ 64 ≤ 1 + width + Bytes.toNat digits) :
    BadLength width (digits ++ rest) .lengthOverflow
  /-- Less follows the length than it says. -/
  | contentMissing {digits rest : Bytes} (digitsLength : digits.length = width)
    (minimal : digits.head? ≠ some 0) (long : shortLimit < Bytes.toNat digits)
    (fits : 1 + width + Bytes.toNat digits < 2 ^ 64) (missing : rest.length < Bytes.toNat digits) :
    BadLength width (digits ++ rest) .unexpectedEnd

/-- Where a long header fails to cut anything off, its length or the content is bad. -/
theorem BadLength.of_cutLong {width : Nat} {data : Bytes} {error : DecodeError} (few : width ≤ 8)
    (failed : cutLong width data = .error error) : BadLength width data error := by
  unfold cutLong at failed
  -- The checks come in the order of the reasons, so each error has passed the checks before it.
  cases digitsCut : cut 1 width data with
  | error first =>
    rw [digitsCut] at failed
    cases failed
    obtain ⟨missing, rfl⟩ := (cut_one_eq_error_iff (by omega)).mp digitsCut
    exact .lengthMissing missing
  | ok parts =>
    obtain ⟨digits, rest⟩ := parts
    obtain ⟨-, digitsLength, rfl⟩ := cut_eq_ok_iff.mp digitsCut
    rw [digitsCut] at failed
    simp only [bind, Except.bind] at failed
    split at failed
    · rename_i zero
      cases failed
      exact .leadingZero digitsLength zero
    · rename_i minimal
      split at failed
      · rename_i short
        cases failed
        exact .needless digitsLength short
      · rename_i long
        rcases cut_eq_error_iff.mp failed with ⟨reached, rfl⟩ | ⟨fits, missing, rfl⟩
        · exact .overflow digitsLength minimal reached
        · exact .contentMissing digitsLength minimal (by omega) fits missing

/-- A long header with a bad length or content fails to cut anything off. -/
theorem cutLong_of_badLength {width : Nat} {data : Bytes} {error : DecodeError} (few : width ≤ 8)
    (bad : BadLength width data error) : cutLong width data = .error error := by
  have digitsCut {digits rest : Bytes} (digitsLength : digits.length = width) :
      cut 1 width (digits ++ rest) = .ok (digits, rest) :=
    cut_eq_ok_iff.mpr ⟨by omega, digitsLength, rfl⟩
  unfold cutLong
  cases bad with
  | lengthMissing missing =>
    rw [(cut_one_eq_error_iff (by omega)).mpr ⟨missing, rfl⟩]
    rfl
  | leadingZero digitsLength zero =>
    rw [digitsCut digitsLength]
    simp only [bind, Except.bind, if_pos zero]
    rfl
  | @needless digits rest digitsLength short =>
    rw [digitsCut digitsLength]
    -- A length with a leading zero may be short as well, and has the same error.
    by_cases zero : digits.head? = some 0
    · simp only [bind, Except.bind, if_pos zero]
      rfl
    · simp only [bind, Except.bind, if_neg zero, if_pos short]
      rfl
  | @overflow digits rest digitsLength minimal reached =>
    have limit : shortLimit = 55 := rfl
    rw [digitsCut digitsLength]
    simp only [bind, Except.bind, if_neg minimal]
    rw [if_neg (by omega)]
    exact cut_eq_error_iff.mpr (.inl ⟨reached, rfl⟩)
  | contentMissing digitsLength minimal long fits missing =>
    rw [digitsCut digitsLength]
    simp only [bind, Except.bind, if_neg minimal]
    rw [if_neg (by omega)]
    exact cut_eq_error_iff.mpr (.inr ⟨fits, missing, rfl⟩)

/-- A lead octet declares a length of its own. -/
def DeclaresLength (lead : UInt8) (length : Nat) : Prop :=
  length ≤ shortLimit ∧ (lead.toNat = stringBase + length ∨ lead.toNat = listBase + length)

/-- A lead octet declares the number of octets of a length that follows it. -/
def DeclaresWidth (lead : UInt8) (width : Nat) : Prop :=
  0 < width ∧ width ≤ 8 ∧
    (lead.toNat = stringBase + shortLimit + width ∨ lead.toNat = listBase + shortLimit + width)

/-- Octets that are not empty do not begin with an item, for one of these reasons. -/
inductive Malformed : Bytes → DecodeError → Prop
  /-- Less follows a short header than it declares. -/
  | contentMissing {lead : UInt8} {tail : Bytes} {length : Nat}
    (declared : DeclaresLength lead length) (missing : tail.length < length) :
    Malformed (lead :: tail) .unexpectedEnd
  /-- A single octet stands behind a header, although it could stand alone. -/
  | needlessHeader {lead octet : UInt8} {rest : Bytes} (declared : lead.toNat = stringBase + 1)
    (own : octet.toNat < stringBase) : Malformed (lead :: octet :: rest) .nonCanonicalSize
  /-- What follows a long header is not a length with its content. -/
  | badLength {lead : UInt8} {tail : Bytes} {width : Nat} {error : DecodeError}
    (declared : DeclaresWidth lead width) (bad : BadLength width tail error) :
    Malformed (lead :: tail) error

/-- A short string that is not read lacks content, or should stand without its header. -/
theorem Malformed.of_shortString {lead : UInt8} {tail : Bytes} {error : DecodeError}
    (low : 0x80 ≤ lead.toNat) (high : lead.toNat ≤ 0xB7)
    (failed : Item.splitLead lead tail = .error error) : Malformed (lead :: tail) error := by
  have limit : shortLimit = 55 := rfl
  have strings : stringBase = 0x80 := rfl
  cases found : cut 1 (lead.toNat - 0x80) tail with
  | error first =>
    rw [Item.splitLead_of_cut_error low high found] at failed
    cases failed
    obtain ⟨missing, rfl⟩ := (cut_one_eq_error_iff (by omega)).mp found
    exact .contentMissing ⟨by omega, by omega⟩ missing
  | ok parts =>
    obtain ⟨content, rest⟩ := parts
    obtain ⟨-, contentLength, rfl⟩ := cut_eq_ok_iff.mp found
    -- What has been cut off is refused only if it is one octet that could stand alone.
    by_cases headed : ∀ octet, content = [octet] → stringBase ≤ octet.toNat
    · rw [(Item.splitLead_shortString low high).mpr
        ⟨content, rfl, headed, contentLength, rfl⟩] at failed
      cases failed
    · simp only [not_forall, Nat.not_le] at headed
      obtain ⟨single, rfl, own⟩ := headed
      rw [Item.splitLead_of_own low high found own] at failed
      cases failed
      rw [List.length_singleton] at contentLength
      exact .needlessHeader (by omega) own

/-- Where reading at a lead octet fails, there is a reason. -/
theorem Malformed.of_splitLead {lead : UInt8} {tail : Bytes} {error : DecodeError}
    (failed : Item.splitLead lead tail = .error error) : Malformed (lead :: tail) error := by
  have octet := lead.toNat_lt
  have limit : shortLimit = 55 := rfl
  have strings : stringBase = 0x80 := rfl
  have lists : listBase = 0xC0 := rfl
  -- Each range of the lead octet has the reasons of what it cuts off.
  rcases Nat.lt_or_ge lead.toNat 0x80 with own | notOwn
  · rw [Item.splitLead_own own] at failed
    cases failed
  rcases Nat.lt_or_ge 0xB7 lead.toNat with notShortString | shortString
  · rcases Nat.lt_or_ge 0xBF lead.toNat with notLongString | longString
    · rcases Nat.lt_or_ge 0xF7 lead.toNat with longList | shortList
      · rw [Item.splitLead_longList_eq longList, map_eq_error_iff] at failed
        exact .badLength ⟨by omega, by omega, by omega⟩ (.of_cutLong (by omega) failed)
      · rw [Item.splitLead_shortList_eq notLongString shortList, map_eq_error_iff,
          cut_one_eq_error_iff (by omega)] at failed
        obtain ⟨missing, rfl⟩ := failed
        exact .contentMissing ⟨by omega, by omega⟩ missing
    · rw [Item.splitLead_longString_eq notShortString longString, map_eq_error_iff] at failed
      exact .badLength ⟨by omega, by omega, by omega⟩ (.of_cutLong (by omega) failed)
  · exact .of_shortString notOwn shortString failed

/-- Where there is a reason, reading at the lead octet fails. -/
theorem Item.splitLead_of_malformed {lead : UInt8} {tail : Bytes} {error : DecodeError}
    (bad : Malformed (lead :: tail) error) : Item.splitLead lead tail = .error error := by
  have limit : shortLimit = 55 := rfl
  have strings : stringBase = 0x80 := rfl
  have lists : listBase = 0xC0 := rfl
  -- Every reason names the range of lead octets that it is about.
  cases bad with
  | @contentMissing _ _ length declared missing =>
    obtain ⟨short, string | list⟩ := declared
    · apply Item.splitLead_of_cut_error (by omega) (by omega)
      exact (cut_one_eq_error_iff (by omega)).mpr ⟨by omega, rfl⟩
    · rw [Item.splitLead_shortList_eq (by omega) (by omega), map_eq_error_iff]
      exact (cut_one_eq_error_iff (by omega)).mpr ⟨by omega, rfl⟩
  | @needlessHeader _ single rest declared own =>
    have found : cut 1 (lead.toNat - 0x80) (single :: rest) = .ok ([single], rest) :=
      cut_eq_ok_iff.mpr ⟨by omega, by rw [List.length_singleton]; omega, rfl⟩
    exact Item.splitLead_of_own (by omega) (by omega) found own
  | @badLength _ _ width _ declared bad =>
    obtain ⟨positive, few, string | list⟩ := declared
    · have same : lead.toNat - 0xB7 = width := by omega
      rw [Item.splitLead_longString_eq (by omega) (by omega), map_eq_error_iff, same]
      exact cutLong_of_badLength few bad
    · have same : lead.toNat - 0xF7 = width := by omega
      rw [Item.splitLead_longList_eq (by omega), map_eq_error_iff, same]
      exact cutLong_of_badLength few bad

/-- Reading at a lead octet fails exactly for one of the reasons. -/
theorem Item.splitLead_eq_error_iff {lead : UInt8} {tail : Bytes} {error : DecodeError} :
    Item.splitLead lead tail = .error error ↔ Malformed (lead :: tail) error :=
  -- One direction for each of the two lemmas above.
  ⟨.of_splitLead, Item.splitLead_of_malformed⟩

/-- Reading the next item fails exactly where there is none, or where what stands there is none. -/
theorem Cursor.next_eq_error_iff {cursor : Cursor} {error : DecodeError} :
    cursor.next = .error error ↔
      cursor.data = [] ∧ error = (if cursor.inList then .tooFewElements else .unexpectedEnd) ∨
        Malformed cursor.data error := by
  obtain ⟨data, inList⟩ := cursor
  cases data with
  | nil =>
    constructor
    · intro failed
      exact .inl ⟨rfl, (Except.error.inj failed).symm⟩
    -- No reason is about data without octets.
    · intro reasons
      rcases reasons with ⟨-, rfl⟩ | bad
      · rfl
      · cases bad
  | cons lead tail =>
    -- Behind a lead octet a cursor adds nothing of its own.
    rw [← Item.splitLead_eq_error_iff]
    simp only [Cursor.next, Item.split?]
    cases Item.splitLead lead tail <;> simp [Except.map, bind, Except.bind, pure, Except.pure]

end Countersign.Rlp
