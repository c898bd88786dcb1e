import Countersign.Proofs.Rlp.Codec

/-! Skeletons of items: where strings, lists and records stand in what a codec reads. Items that
two codecs can both read fit both of their skeletons, which is impossible where these are apart. -/

namespace Countersign.Rlp

/-- The outline of the items that a codec reads. -/
inductive Skeleton where
  /-- A string, whatever its octets stand for. -/
  | string
  /-- A list of any length. -/
  | list
  /-- A list of as many elements as a record has fields. -/
  | record (fields : List Skeleton)

namespace Skeleton

mutual

/-- An item is built as a skeleton says. -/
def Fits : Skeleton → Item → Prop
  | .string, item => ∃ content, item = .octets content
  | .list, item => ∃ payload, item = .list payload
  | .record fields, item => ∃ payload, item = .list payload ∧ FitsAll fields payload

/-- A payload consists of one item for each of some skeletons. -/
def FitsAll : List Skeleton → Bytes → Prop
  | [], payload => payload = []
  | first :: rest, payload => ∃ item behind, Item.split? payload = .ok (some (item, behind)) ∧
      first.Fits item ∧ FitsAll rest behind

end

mutual

/-- Whether it shows in the outline that no item is built both ways. -/
def apart : Skeleton → Skeleton → Bool
  | .string, .string => false
  | .string, _ => true
  | _, .string => true
  | .record fields, .record others => apartAll fields others
  -- A list may have the elements of any record.
  | _, _ => false

/-- Whether two records have fields of different numbers or some field apart. -/
def apartAll : List Skeleton → List Skeleton → Bool
  | [], [] => false
  | first :: rest, other :: others => first.apart other || apartAll rest others
  | _, _ => true

end

mutual

/-- No item is built in two ways that are apart. -/
theorem not_fits_of_apart {item : Item} (skeleton other : Skeleton)
    (separate : skeleton.apart other = true) (fits : skeleton.Fits item) : ¬ other.Fits item := by
  intro otherFits
  -- By the two skeletons: where they differ in form the items do, else some field does.
  match skeleton, other with
  | .string, .list | .string, .record _ =>
    obtain ⟨content, rfl⟩ := fits
    simp [Fits] at otherFits
  | .list, .string | .record _, .string =>
    obtain ⟨content, rfl⟩ := otherFits
    simp [Fits] at fits
  | .record fields, .record others =>
    -- Both are built from one list, so its fields are compared one by one.
    obtain ⟨payload, rfl, filled⟩ := fits
    obtain ⟨_, same, otherFilled⟩ := otherFits
    cases same
    exact not_fitsAll_of_apartAll fields others separate filled otherFilled
  -- These are not apart.
  | .string, .string | .list, .list | .list, .record _ | .record _, .list => cases separate

/-- No payload consists of the fields of two records that are apart. -/
theorem not_fitsAll_of_apartAll {payload : Bytes} (fields others : List Skeleton)
    (separate : apartAll fields others = true) (filled : FitsAll fields payload) :
    ¬ FitsAll others payload := by
  intro otherFilled
  match fields, others with
  | [], [] => cases separate
  | [], _ :: _ =>
    -- Nothing is left where the other record goes on.
    obtain rfl : payload = [] := filled
    obtain ⟨item, behind, found, -⟩ := otherFilled
    cases found
  | _ :: _, [] =>
    obtain rfl : payload = [] := otherFilled
    obtain ⟨item, behind, found, -⟩ := filled
    cases found
  | first :: rest, other :: others =>
    -- Both records have the same first item and the same payload behind it.
    obtain ⟨item, behind, found, firstFits, restFilled⟩ := filled
    obtain ⟨_, _, same, otherFits, othersFilled⟩ := otherFilled
    cases found.symm.trans same
    rw [apartAll, Bool.or_eq_true] at separate
    rcases separate with here | further
    · exact not_fits_of_apart first other here firstFits otherFits
    · exact not_fitsAll_of_apartAll rest others further restFilled othersFilled

end

end Skeleton

variable {α β : Type}

/-- A codec reads only items that are built as a skeleton says. -/
def Codec.Follows (codec : Codec α) (skeleton : Skeleton) : Prop :=
  ∀ item value, codec.ofItem item = .ok value → skeleton.Fits item

/-- Fields are read only from payloads that consist of the items of some skeletons. -/
def Fields.Follows (fields : Fields α) (skeletons : List Skeleton) : Prop :=
  ∀ payload value, fields.read payload = .ok (value, []) → Skeleton.FitsAll skeletons payload

namespace Codec

variable {codec : Codec α} {skeleton : Skeleton}

/-- A codec that makes strings only reads strings only. -/
theorem follows_string {integers : α → List Int} (lawful : codec.Lawful integers)
    (strings : ∀ value item, codec.toItem value = .ok item → ∃ content, item = .octets content) :
    codec.Follows .string :=
  -- What is read is what is made again, by the law of the codec.
  fun _ _ read => strings _ _ (lawful.toItem_of_ofItem read)

/-- Octets are read from strings. -/
theorem bytes_follows : bytes.Follows .string :=
  follows_string bytes_lawful fun _ _ made => ⟨_, (Except.ok.inj made).symm⟩

/-- Texts are read from strings. -/
theorem text_follows : text.Follows .string :=
  follows_string text_lawful fun _ _ made => ⟨_, (Except.ok.inj made).symm⟩

/-- Integers of sixty-four bits are read from strings. -/
theorem word64_follows : word64.Follows .string :=
  -- A word is made into a string whatever its size.
  follows_string word64_lawful fun _ _ made => ⟨_, (Except.ok.inj made).symm⟩

/-- Integers of any size are read from strings. -/
theorem integer_follows : integer.Follows .string := by
  apply follows_string integer_lawful
  intro value item made
  simp only [integer] at made
  -- A negative integer makes no item at all.
  split at made
  · cases made
  · exact ⟨_, (Except.ok.inj made).symm⟩

/-- What is made of a value is read from the same items. -/
theorem Follows.fits_of_map {item : Item} {change : α → β} {result : β}
    (follows : codec.Follows skeleton) (read : (codec.ofItem item).map change = .ok result) :
    skeleton.Fits item := by
  -- A change of the value does not undo the read.
  obtain ⟨value, valueRead, -⟩ := map_eq_ok_iff.mp read
  exact follows item value valueRead

/-- A codec seen through a pair of maps reads the same items. -/
theorem Follows.iso (follows : codec.Follows skeleton) {pack : α → β} {unpack : β → α} :
    (codec.iso pack unpack).Follows skeleton :=
  -- Reading through a pair of maps is reading first.
  fun _ _ read => follows.fits_of_map read

/-- Lists are read from lists. -/
theorem list_follows : codec.list.Follows .list := by
  intro item value read
  -- The form of the item is tested before any element.
  obtain ⟨payload, payloadRead, -⟩ := bind_eq_ok_iff.mp read
  exact ⟨payload, Item.payload_eq_ok_iff.mp payloadRead⟩

end Codec

variable {codec : Codec α} {rest : Fields β} {skeleton : Skeleton} {skeletons : List Skeleton}

/-- No fields are read from the empty payload. -/
theorem Fields.nil_follows : Fields.nil.Follows [] := by
  intro payload value read
  -- Having no fields takes nothing off the payload.
  cases read
  rfl

/-- A field in front of others is read from an item in front of theirs. -/
theorem Codec.Follows.cons (first : codec.Follows skeleton) (others : rest.Follows skeletons) :
    (Fields.cons codec rest).Follows (skeleton :: skeletons) := by
  intro payload value read
  obtain ⟨split, found, afterSplit⟩ := bind_eq_ok_iff.mp read
  -- At the end of the payload a field is missing.
  cases split with
  | none => cases afterSplit
  | some pair =>
    -- The field, those behind it and what is left are read in this order.
    obtain ⟨item, behind⟩ := pair
    obtain ⟨front, frontRead, afterFront⟩ := bind_eq_ok_iff.mp afterSplit
    obtain ⟨⟨back, left⟩, backRead, made⟩ := bind_eq_ok_iff.mp afterFront
    cases made
    exact ⟨item, behind, found, first item front frontRead, others behind back backRead⟩

/-- A record is read exactly from a list whose payload is read as its fields to the end. -/
theorem Fields.ofItem_record_eq_ok_iff {fields : Fields α} {pack : α → β} {unpack : β → α}
    {item : Item} {value : β} :
    (fields.record pack unpack).ofItem item = .ok value ↔
      ∃ payload inner, item = .list payload ∧ fields.read payload = .ok (inner, []) ∧
        pack inner = value := by
  rw [Fields.record, bind_eq_ok_iff]
  constructor
  · intro steps
    obtain ⟨payload, payloadRead, afterPayload⟩ := steps
    obtain ⟨⟨inner, left⟩, innerRead, ended⟩ := bind_eq_ok_iff.mp afterPayload
    -- A payload with more than the fields is refused.
    cases left with
    | cons => cases ended
    | nil =>
      have made := Except.ok.inj ended
      exact ⟨payload, inner, Item.payload_eq_ok_iff.mp payloadRead, innerRead, made⟩
  · intro parts
    obtain ⟨payload, inner, rfl, innerRead, rfl⟩ := parts
    exact ⟨payload, rfl, bind_eq_ok_iff.mpr ⟨(inner, []), innerRead, rfl⟩⟩

/-- A record is read from a list of its fields' items. -/
theorem Fields.Follows.record {fields : Fields α} (follows : fields.Follows skeletons)
    {pack : α → β} {unpack : β → α} : (fields.record pack unpack).Follows (.record skeletons) := by
  intro item value read
  -- A record is a list, and its payload has been read to the end.
  obtain ⟨payload, inner, rfl, innerRead, -⟩ := Fields.ofItem_record_eq_ok_iff.mp read
  exact ⟨payload, rfl, follows payload inner innerRead⟩

end Countersign.Rlp
