import Countersign.Json.Form
import Countersign.Proofs.Hex
import Countersign.Proofs.Json.Printing
import Countersign.Proofs.Outcome

/-! Laws of forms: a value is written without flaws and read back, part by part. -/

namespace Countersign.Json

variable {α β γ δ : Type}

/-- A form whose values are written without flaws and read back. -/
structure Form.Lawful (form : Form α) : Prop where
  /-- What is written has a text. -/
  plain : ∀ value, (form.write value).Plain
  /-- What is written is read as the value that it was written for. -/
  read_write : ∀ value, form.read (form.write value) = .ok value

namespace Form.Lawful

variable {form : Form α}

/-- A value is read back from its shortest text. -/
theorem parse_render (lawful : form.Lawful) (value : α) :
    form.parse (form.render value) = .ok value := by
  -- The text is a document of the value that was written, with nothing behind it.
  have document : readDocument (form.render value) = (form.write value, false) :=
    (lawful.plain value).spells_compact.readDocument
  simp [parse, document, lawful.read_write, bind, Except.bind, pure, Except.pure]

/-- A value is read back from its indented text. -/
theorem parse_renderIndented (lawful : form.Lawful) (value : α) :
    form.parse (form.write value).renderIndented = .ok value := by
  -- Blanks between the parts of a text do not matter to its reader.
  have document : readDocument (form.write value).renderIndented = (form.write value, false) :=
    ((lawful.plain value).spells_indented 0).readDocument
  simp [parse, document, lawful.read_write, bind, Except.bind, pure, Except.pure]

/-- The form of a list is lawful if that of its elements is. -/
theorem list (lawful : form.Lawful) : (Form.list form).Lawful where
  plain values := by
    apply Value.Plain.list
    intro value member
    obtain ⟨element, -, rfl⟩ := List.mem_map.mp member
    exact lawful.plain element
  read_write values := by
    -- Element by element; the end of the list is skipped.
    have elements : form.readElements (values.map form.write) = .ok values := by
      induction values with
      | nil => rfl
      | cons value rest ih =>
        simp only [List.map_cons, readElements, lawful.read_write, ih, bind, Except.bind, pure,
          Except.pure]
    simp only [Form.list, Value.ofList, elements, skipEnding, bind, Except.bind, pure, Except.pure]

end Form.Lawful

/-! ### Texts -/

/-- Texts are read back. -/
theorem Form.text_lawful : Form.text.Lawful where
  plain := .text
  read_write _ := rfl

/-- A form that is displayed as a text is lawful if its text is parsed as it. -/
theorem Form.refine_lawful {display : α → String} {parse : String → Except String α}
    (inverse : ∀ value, parse (display value) = .ok value) :
    (Form.refine display parse).Lawful where
  plain value := .text (display value)
  read_write value := by
    -- The text is read before it is parsed.
    simp only [refine, Value.ofString, text, inverse, bind, Except.bind, pure, Except.pure]

/-- Octets are read back from their digits. -/
theorem Form.hexBytes_lawful : Form.hexBytes.Lawful := by
  -- They are written with the mark and read with or without it.
  apply refine_lawful
  intro bytes
  rw [Hex.decodeMarked_encodeMarked]
  rfl

/-! ### Natural numbers -/

/-- More digits make no number smaller. -/
theorem le_ofDigitChars (digits : List Char) (value : Nat) :
    value ≤ Nat.ofDigitChars 10 digits value := by
  -- Every digit multiplies what stands before it by ten.
  induction digits generalizing value with
  | nil => exact Nat.le_refl value
  | cons digit rest ih =>
    rw [Nat.ofDigitChars_cons]
    have longer := ih (10 * value + (digit.toNat - '0'.toNat))
    omega

/-- All digits are taken if the whole number fits. -/
theorem takeDigits_of_lt {value : Nat} {digits : List Char}
    (small : Nat.ofDigitChars 10 digits value < Nat.pow 2 64) :
    takeDigits value digits = (Nat.ofDigitChars 10 digits value, []) := by
  -- On the digits, with the number that those before them make: it only grows to the whole one.
  induction digits generalizing value with
  | nil => rfl
  | cons digit rest ih =>
    have split : Nat.ofDigitChars 10 (digit :: rest) value =
        Nat.ofDigitChars 10 rest (Nat.ofDigitChars 10 [digit] value) := by
      rw [Nat.ofDigitChars_cons, Nat.ofDigitChars_cons, Nat.ofDigitChars_nil]
    rw [split] at small
    have fits := Nat.lt_of_le_of_lt (le_ofDigitChars rest _) small
    rw [takeDigits, if_pos fits, ih small, split]

/-- Rounding at most doubles a number. -/
theorem nearestDouble_le (value : Nat) : nearestDouble value ≤ 2 * value + 1 := by
  have whole : value / Nat.pow 2 (value.log2 - 52) * Nat.pow 2 (value.log2 - 52) ≤ value :=
    Nat.div_mul_le_self _ _
  have unit : Nat.pow 2 (value.log2 - 52) ≤ value + 1 := by
    rcases Nat.eq_zero_or_pos value with rfl | positive
    · decide
    · have power : 2 ^ value.log2 ≤ value := Nat.log2_self_le (Nat.pos_iff_ne_zero.mp positive)
      have smaller : 2 ^ (value.log2 - 52) ≤ 2 ^ value.log2 :=
        Nat.pow_le_pow_right (by decide) (Nat.sub_le _ _)
      exact Nat.le_succ_of_le (Nat.le_trans smaller power)
  -- Rounding goes to a multiple of the unit, the next one at most.
  rw [nearestDouble]
  split
  · rw [Nat.add_mul, Nat.one_mul]
    omega
  · omega

/-- A number of sixty-four bits is not too large for a double. -/
theorem isTooLarge_toDigits {value : Nat} (small : value < Nat.pow 2 64) :
    isTooLarge ⟨false, Nat.toDigits 10 value, none, none⟩ = false := by
  have taken : takeDigits 0 (Nat.toDigits 10 value) = (value, []) := by
    have digits : Nat.ofDigitChars 10 (Nat.toDigits 10 value) 0 = value :=
      Nat.ofDigitChars_ten_toDigits
    rw [takeDigits_of_lt (by rwa [digits]), digits]
  -- With no exponent the number is multiplied by one, and rounded it is far below the limit.
  have rounded := nearestDouble_le value
  have limit : 2 * Nat.pow 2 64 + 1 < Text.Decimal.doubleLimit := by decide +kernel
  have one : nearestDouble 1 = 1 := by decide
  simp [isTooLarge, taken, takeDigits, Text.Decimal.power, one]
  omega

/-- A number below the bound is read back. -/
theorem Form.natural_read_write {bound value : Nat} (narrow : bound ≤ Nat.pow 2 64)
    (small : value < bound) :
    (Form.natural bound).read ((Form.natural bound).write value) = .ok value := by
  -- The digits are not too large, they are an integer, and their value is below the bound.
  have readable := isTooLarge_toDigits (Nat.lt_of_lt_of_le small narrow)
  have digits : Text.digitsValue (Nat.toDigits 10 value) = value := Nat.ofDigitChars_ten_toDigits
  simp [natural, Value.ofNat, readable, Text.Decimal.isInteger, digits, small]

/-- Words of sixty-four bits are read back. -/
theorem Form.word64_lawful : Form.word64.Lawful where
  plain value := .number value.toNat
  read_write value := by
    -- All of them are below the bound that is read.
    have read := natural_read_write (Nat.le_refl (Nat.pow 2 64)) value.toNat_lt
    simp only [word64, iso, read, Except.map, UInt64.ofNat_toNat]

/-- Words of thirty-two bits are read back. -/
theorem Form.word32_lawful : Form.word32.Lawful where
  plain value := .number value.toNat
  read_write value := by
    -- The narrower bound is below that of the numbers.
    have narrow : Nat.pow 2 32 ≤ Nat.pow 2 64 := by decide
    have read := natural_read_write narrow value.toNat_lt
    simp only [word32, iso, read, Except.map, UInt32.ofNat_toNat]

/-! ### Records -/

/-- The members of a record, with their names as values. -/
def named (members : List (String × Value)) : List (Value × Value) :=
  members.map fun (name, value) => (.ofString name, value)

/-- Fields that are written under the given names, and read back if the names differ. -/
structure Fields.Lawful (fields : Fields δ α) (names : List String) : Prop where
  /-- The names are always the same. -/
  map_fst : ∀ value, (fields.members value).map Prod.fst = names
  /-- What is written has a text. -/
  plain : ∀ value, ∀ member ∈ fields.members value, member.2.Plain
  /-- All members are met, and give the value that they were written for. -/
  meets : names.Nodup → ∀ value, ∃ draft,
    fields.meetAll fields.blank (named (fields.members value)) = .ok draft ∧
      fields.close draft = .ok value

/-- No fields are read from no members. -/
theorem Fields.Lawful.nil : Fields.nil.Lawful [] where
  map_fst _ := rfl
  plain _ _ member := by cases member
  -- There is no member that could be read, nor one that is missing.
  meets _ _ := ⟨(), rfl, rfl⟩

namespace Fields.Lawful

variable {fields : Fields δ β} {names : List String} {form : Form α} {name : String}

/-- A member is met or passed over, and then the others are. -/
theorem meetAll_cons (fields : Fields δ β) (draft : δ) (key : String) (value : Value)
    (others : List (String × Value)) :
    fields.meetAll draft (named ((key, value) :: others)) =
      match fields.meet key value draft with
      | some outcome => outcome >>= fun next => fields.meetAll next (named others)
      | none => value.skip >>= fun _ => fields.meetAll draft (named others) :=
  -- This is the definition, with the rest of the members still in their own form.
  rfl

/-- Members of other names leave the first field alone. -/
theorem meetAll_consWith (form : Form α) (fallback short : Option α) (fields : Fields δ β)
    {members : List (String × Value)} (other : ∀ member ∈ members, member.1 ≠ name)
    (first : Option α) (draft : δ) :
    (Fields.consWith name form fallback short fields).meetAll (first, draft) (named members) =
      (fields.meetAll draft (named members)).map fun later => (first, later) := by
  -- On the members: each is passed on to the other fields, whose draft goes on behind the first.
  induction members generalizing draft with
  | nil => rfl
  | cons member rest ih =>
    obtain ⟨key, value⟩ := member
    have apart : key ≠ name := other (key, value) (by simp)
    have later := ih fun member listed => other member (List.mem_cons_of_mem _ listed)
    have passed : (Fields.consWith name form fallback short fields).meet key value (first, draft) =
        (fields.meet key value draft).map fun outcome =>
          outcome.map fun others => (first, others) := if_neg apart
    rw [meetAll_cons, meetAll_cons, passed]
    cases fields.meet key value draft with
    | none =>
      cases value.skip with
      | error fault => rfl
      | ok _ => exact later draft
    | some outcome =>
      cases outcome with
      | error fault => rfl
      | ok next => exact later next

/-- One more field in front keeps the fields lawful, whatever stands for it where it is missing. -/
theorem consWith (rest : fields.Lawful names) (lawful : form.Lawful)
    (fallback short : Option α) :
    (Fields.consWith name form fallback short fields).Lawful (name :: names) where
  map_fst value := by rw [Fields.consWith, List.map_cons, rest.map_fst]
  plain value member listed := by
    rcases List.mem_cons.mp listed with rfl | later
    · exact lawful.plain value.1
    · exact rest.plain value.2 member later
  meets distinct value := by
    obtain ⟨fresh, others_distinct⟩ := List.nodup_cons.mp distinct
    obtain ⟨first, others⟩ := value
    obtain ⟨draft, met, closed⟩ := rest.meets others_distinct others
    -- The own member is the first one, and none of the others has its name.
    have other : ∀ member ∈ fields.members others, member.1 ≠ name := by
      rintro member listed rfl
      exact fresh (rest.map_fst others ▸ List.mem_map_of_mem listed)
    have own : (Fields.consWith name form fallback short fields).meet name (form.write first)
        (none, fields.blank) = some (.ok (some first, fields.blank)) := by
      simp only [Fields.consWith, if_true, lawful.read_write, Except.map]
    have later := meetAll_consWith form fallback short fields other (some first) fields.blank
    refine ⟨(some first, draft), ?_, ?_⟩
    · rw [met] at later
      have members : (Fields.consWith name form fallback short fields).members (first, others) =
        (name, form.write first) :: fields.members others := rfl
      have blank : (Fields.consWith name form fallback short fields).blank =
        (none, fields.blank) := rfl
      rw [members, blank, meetAll_cons, own]
      exact later
    · simp [Fields.consWith, absent, closed, bind, Except.bind, pure, Except.pure]

/-- A field that must be there is there when it was written. -/
theorem cons (lawful : form.Lawful) (rest : fields.Lawful names) :
    (Fields.cons name form fields).Lawful (name :: names) :=
  -- Nothing stands for it.
  rest.consWith lawful none none

/-- A field that an object may lack is there when it was written. -/
theorem optional {fallback : α} (lawful : form.Lawful) (rest : fields.Lawful names) :
    (Fields.optional name form fallback fields).Lawful (name :: names) :=
  -- Its default stands for it where it is missing, which it is not.
  rest.consWith lawful (some fallback) none

end Fields.Lawful

/-- A record is read from the members that it was written as. -/
theorem Form.Lawful.record {fields : Fields δ β} {names : List String}
    (lawful : fields.Lawful names) (distinct : names.Nodup) {pack : β → γ} {unpack : γ → β}
    (inverse : ∀ value, pack (unpack value) = value) : (fields.record pack unpack).Lawful where
  plain value := .members (lawful.plain (unpack value))
  read_write value := by
    -- The members are met one by one, and what they leave is closed to the fields.
    obtain ⟨draft, met, closed⟩ := lawful.meets distinct (unpack value)
    rw [named] at met
    simp only [Fields.record, Value.ofMembers, met, skipEnding, closed, inverse, bind, Except.bind,
      pure, Except.pure]

/-- An alternative with content is read by the reader of its name. -/
theorem Form.tagged_lawful {name : α → String} {content : α → Value}
    {readers : List (String × (Value → Except Fault α))}
    (plain : ∀ value, (content value).Plain)
    (reads : ∀ value, ∃ reader, readers.lookup (name value) = some reader ∧
      reader (content value) = .ok value) : (Form.tagged name content readers).Lawful where
  plain value := by
    apply Value.Plain.members
    intro member listed
    rw [List.mem_singleton.mp listed]
    exact plain value
  read_write value := by
    -- The name is looked up first, and then its content is read.
    obtain ⟨reader, found, read⟩ := reads value
    simp [tagged, Value.ofMembers, Value.alternative, Value.ofString, Value.memberName, found, read,
      endOf, skipEnding, bind, Except.bind, Except.map, pure, Except.pure]

end Countersign.Json
