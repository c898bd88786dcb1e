import Countersign.Path
import Countersign.Proofs.Text.Blank
import Countersign.Proofs.Text.Parts
import Mathlib.Data.List.Forall2

/-! The texts of paths: what is read as a path, and the written form among those texts. -/

namespace Countersign.Path

open Text

variable {part index chars : List Char} {component : UInt32} {value : Nat} {text : String}
variable {path : Path}

/-! ### Components -/

/-- Digits, perhaps behind a plus sign, and the number that they stand for. -/
inductive Indexes : List Char → Nat → Prop
  /-- The digits alone. -/
  | bare {digits : List Char} (written : IsDigits digits) : Indexes digits (digitsValue digits)
  /-- The digits behind a plus sign. -/
  | signed {digits : List Char} (written : IsDigits digits) :
    Indexes ('+' :: digits) (digitsValue digits)

/-- The spellings of a component. -/
inductive Spells : List Char → UInt32 → Prop
  /-- An index below the hardened ones is a component. -/
  | plain {index : List Char} {component : UInt32} (indexes : Indexes index component.toNat)
    (small : component.toNat < hardened) : Spells index component
  /-- One mark behind such an index hardens it. -/
  | marked {index : List Char} {value : Nat} {component : UInt32} {mark : Char}
    (indexes : Indexes index value) (small : value < hardened) (known : mark = '\'' ∨ mark = 'h')
    (hardens : component.toNat = value + hardened) : Spells (index ++ [mark]) component

/-- The last character of an index is a digit. -/
theorem Indexes.exists_getLast? (indexes : Indexes index value) :
    ∃ last, index.getLast? = some last ∧ isDigit last = true := by
  cases indexes with
  | bare written => exact written.exists_getLast?
  | signed written =>
    -- A sign in front leaves the last digit where it is.
    obtain ⟨last, ends, digit⟩ := written.exists_getLast?
    exact ⟨last, by rw [List.getLast?_cons_of_ne_nil written.filled, ends], digit⟩

/-- An index without its sign. -/
def unsigned : List Char → List Char
  | '+' :: digits => digits
  | digits => digits

/-- Behind a sign that may be missing, an index has the value of its digits. -/
theorem natural?_unsigned_eq_some_iff :
    natural? (unsigned index) = some value ↔ Indexes index value := by
  constructor
  · intro read
    -- With a plus sign and without one.
    revert read
    fun_cases unsigned index
    · intro read
      obtain ⟨written, rfl⟩ := natural?_eq_some_iff.mp read
      exact .signed written
    · intro read
      obtain ⟨written, rfl⟩ := natural?_eq_some_iff.mp read
      exact .bare written
  · rintro (written | written)
    · rw [unsigned]
      -- Digits do not begin with a sign.
      · exact natural?_eq_some_iff.mpr ⟨written, rfl⟩
      · intro digits
        exact written.ne_cons rfl digits
    · exact natural?_eq_some_iff.mpr ⟨written, rfl⟩

/-- A component is read from its index alone, which must be small enough. -/
theorem component?_eq (index : List Char) (isHardened : Bool) :
    component? index isHardened = (natural? (unsigned index)).bind fun value =>
      if hardened ≤ value then none
      else some (UInt32.ofNat (if isHardened then value + hardened else value)) := by
  -- A sign is taken off before the digits are read.
  fun_cases unsigned index
  · rfl
  · simp [component?]

/-- A component is its index, with the highest bit set where it is hardened. -/
theorem component?_eq_some_iff {isHardened : Bool} : component? index isHardened = some component ↔
    ∃ value < hardened, Indexes index value ∧
      component.toNat = if isHardened then value + hardened else value := by
  have bound : hardened = 2147483648 := rfl
  rw [component?_eq]
  constructor
  · intro read
    obtain ⟨value, digits, read⟩ := Option.bind_eq_some_iff.mp read
    split at read
    · cases read
    · rename_i small
      refine ⟨value, by omega, natural?_unsigned_eq_some_iff.mp digits, ?_⟩
      -- Below the bound there is room for that bit.
      rw [← Option.some.inj read, UInt32.toNat_ofNat']
      split <;> omega
  · rintro ⟨value, small, indexes, same⟩
    -- The number is the component's own, so nothing is lost in the word.
    rw [natural?_unsigned_eq_some_iff.mpr indexes, Option.bind_some,
      if_neg (Nat.not_le_of_lt small), ← same, UInt32.ofNat_toNat]

/-- A part is read as a component if it spells that component, and only then. -/
theorem readComponent?_eq_some_iff :
    readComponent? part = some component ↔ Spells part component := by
  constructor
  · intro read
    -- Both marks are taken off in the same way.
    have hardens {mark : Char} (known : mark = '\'' ∨ mark = 'h') (last : part.getLast? = some mark)
        (read : component? part.dropLast true = some component) : Spells part component := by
      obtain ⟨value, small, indexes, same⟩ := component?_eq_some_iff.mp read
      have split := List.dropLast_append_getLast? mark last
      rw [← split]
      exact .marked indexes small known same
    rw [readComponent?] at read
    split at read
    · rename_i last
      exact hardens (.inl rfl) last read
    · rename_i last
      exact hardens (.inr rfl) last read
    · obtain ⟨value, small, indexes, same⟩ := component?_eq_some_iff.mp read
      rw [if_neg Bool.false_ne_true] at same
      subst same
      exact .plain indexes small
  · intro spells
    cases spells with
    | plain indexes small =>
      obtain ⟨last, ends, digit⟩ := indexes.exists_getLast?
      have read : component? part false = some component :=
        component?_eq_some_iff.mpr ⟨_, small, indexes, rfl⟩
      -- An index ends with a digit, which is neither of the marks.
      rw [readComponent?, ends]
      split
      · rename_i mark
        cases mark
        cases digit
      · rename_i mark
        cases mark
        cases digit
      · exact read
    | @marked index value _ mark indexes small known same =>
      have read : component? index true = some component :=
        component?_eq_some_iff.mpr ⟨_, small, indexes, same⟩
      rcases known with rfl | rfl
      · simp [readComponent?, read]
      · simp [readComponent?, read]

/-! ### Paths -/

/-- The texts of a path: the master key and then the components in turn, each behind a slash.
Blanks around it do not matter. -/
def Writes (text : String) (path : Path) : Prop :=
  -- Every part of the text spells the component at its place.
  ∃ parts, List.Forall₂ Spells parts path.components ∧
    trim text.toList = 'm' :: parts.flatMap ('/' :: ·)

/-- No slash stands in an index. -/
theorem Indexes.not_mem (indexes : Indexes index value) : '/' ∉ index := by
  -- It consists of digits and perhaps a sign.
  cases indexes with
  | bare written => exact written.not_mem '/' rfl
  | signed written => simp [written.not_mem '/' rfl]

/-- No slash stands in a component. -/
theorem Spells.not_mem (spells : Spells part component) : '/' ∉ part := by
  cases spells with
  | plain indexes => exact indexes.not_mem
  | marked indexes small known =>
    -- Neither of the marks is a slash.
    have free := indexes.not_mem
    rcases known with rfl | rfl <;> simp [free]

/-- Parts are read as components if each of them spells its own. -/
theorem mapM_readComponent?_eq_some_iff {parts : List (List Char)} {components : List UInt32} :
    parts.mapM readComponent? = some components ↔ List.Forall₂ Spells parts components := by
  -- Part by part, and there must be as many of both.
  induction parts generalizing components with
  | nil => cases components <;> simp
  | cons part rest ih =>
    cases components with
    | nil => simp [List.mapM_cons, Option.bind_eq_some_iff]
    | cons component others =>
      simp [List.mapM_cons, Option.bind_eq_some_iff, readComponent?_eq_some_iff, ih]

/-- A text is read as a path exactly if it writes the path. -/
theorem parse_eq_ok_iff : parse text = .ok path ↔ Writes text path := by
  constructor
  · intro read
    rw [parse] at read
    -- Cutting at the slashes must give the master key and then parts that are components.
    split at read
    · rename_i parts cut
      split at read
      · rename_i components spelled
        cases read
        obtain ⟨-, -, whole⟩ := parts_eq_cons_iff.mp cut
        exact ⟨parts, mapM_readComponent?_eq_some_iff.mp spelled, whole⟩
      · cases read
    · cases read
  · rintro ⟨parts, spelled, whole⟩
    -- Parts without slashes are what the text is cut into.
    have free : ∀ part ∈ parts, '/' ∉ part := by
      have each := spelled.imp fun part component spells => And.intro spells.not_mem spells
      exact ((List.forall₂_and_left _ _).mp each).1
    have cut : Text.parts '/' (trim text.toList) = ['m'] :: parts :=
      parts_eq_cons_iff.mpr ⟨by decide, free, whole⟩
    rw [parse, cut]
    simp only [mapM_readComponent?_eq_some_iff.mpr spelled]

/-- A text that is not read as a path is named in its refusal. -/
theorem parse_eq_error (unwritten : ∀ path, ¬ Writes text path) : parse text = .error ⟨text⟩ := by
  cases read : parse text with
  -- What is read is written.
  | ok path => exact absurd (parse_eq_ok_iff.mp read) (unwritten path)
  | error invalid =>
    rw [parse] at read
    split at read
    · split at read
      · cases read
      · exact read.symm
    · exact read.symm

/-! ### The written form -/

/-- What is written for a component behind its slash. -/
def written (component : UInt32) : List Char :=
  -- A hardened component is written as its index with a mark.
  if hardened ≤ component.toNat then Nat.toDigits 10 (component.toNat - hardened) ++ ['\'']
  else Nat.toDigits 10 component.toNat

/-- A component is displayed as a slash and what is written for it. -/
theorem displayComponent_eq (component : UInt32) :
    displayComponent component = '/' :: written component := by
  rw [displayComponent, written]
  -- Hardened or not.
  split
  · exact List.cons_append
  · rfl

/-- The digits of a number are an index with that value. -/
theorem indexes_toDigits (value : Nat) : Indexes (Nat.toDigits 10 value) value := by
  -- No sign stands in front of them.
  have bare := Indexes.bare (isDigits_toDigits value)
  rwa [digitsValue_toDigits] at bare

/-- The written form of a component spells it. -/
theorem spells_written (component : UInt32) : Spells (written component) component := by
  -- A component has thirty-two bits, of which the highest says whether it is hardened.
  have below : component.toNat < hardened + hardened := component.toNat_lt
  rw [written]
  split
  · rename_i high
    have small : component.toNat - hardened < hardened := by omega
    exact .marked (indexes_toDigits _) small (.inl rfl) (Nat.sub_add_cancel high).symm
  · rename_i low
    exact .plain (indexes_toDigits _) (Nat.lt_of_not_le low)

/-- No blank is written in a component. -/
theorem isBlank_of_mem_written {char : Char} (member : char ∈ written component) :
    isBlank char = false := by
  have digits {value : Nat} (digit : char ∈ Nat.toDigits 10 value) : isBlank char = false :=
    isBlank_of_isDigit char (isDigit_of_mem_toDigits digit)
  rw [written] at member
  split at member
  -- Behind the digits of a hardened component stands its mark.
  · rcases List.mem_append.mp member with digit | mark
    · exact digits digit
    · rw [List.mem_singleton.mp mark]
      decide
  · exact digits member

/-- A path is displayed as the master key and its components, each behind a slash. -/
theorem toList_display (path : Path) :
    (display path).toList = 'm' :: (path.components.map written).flatMap ('/' :: ·) := by
  rw [display, String.toList_ofList, List.flatMap_map]
  -- What is left is to write one component.
  congr 2
  funext component
  exact displayComponent_eq component

/-- The written form is a text of the path, with no blanks to trim off. -/
theorem writes_display (path : Path) : Writes (display path) path := by
  refine ⟨path.components.map written, ?_, ?_⟩
  · rw [List.forall₂_map_left_iff, List.forall₂_same]
    exact fun component _ => spells_written component
  -- There is no blank anywhere, so none at the ends.
  · rw [toList_display]
    apply (isTrimmed_of_solid _).trim_eq
    intro char member
    simp only [List.mem_cons, List.mem_flatMap, List.mem_map] at member
    rcases member with rfl | ⟨_, ⟨component, -, rfl⟩, rfl | digit⟩
    · decide
    · decide
    · exact isBlank_of_mem_written digit

/-- A path reads back from its written form. -/
theorem parse_display (path : Path) : parse (display path) = .ok path :=
  -- It is one of the texts that write the path.
  parse_eq_ok_iff.mpr (writes_display path)

/-- The written form of a path tells it from all other paths. -/
theorem display_inj {other : Path} : display path = display other ↔ path = other := by
  constructor
  -- Two paths with one text would both be read from it.
  · intro same
    have read := parse_display path
    rw [same, parse_display other] at read
    exact (Except.ok.inj read).symm
  · rintro rfl
    rfl

/-- Every path reads back from its written form. The texts that are read as a path are the master
key followed by components, each behind a slash: an index of at least one digit below 2^31, perhaps
behind a plus sign, and perhaps hardened by one mark behind it. All texts of one path have the same
written form, which is one of them, and texts of no path are refused by name. -/
theorem parse_canonical :
    (∀ path, parse (display path) = .ok path) ∧
    (∀ text path, parse text = .ok path ↔ ∃ parts, List.Forall₂ Spells parts path.components ∧
      trim text.toList = 'm' :: parts.flatMap ('/' :: ·)) ∧
    (∀ text path, parse text = .ok path → parse (display path) = .ok path ∧
      ∀ other otherPath, parse other = .ok otherPath →
        (display path = display otherPath ↔ parse text = parse other)) ∧
    (∀ text, (∀ path, ¬ Writes text path) →
      parse text = .error ⟨text⟩ ∧
      (Invalid.mk text).message = "config error: invalid derivation path: " ++ text) := by
  refine ⟨parse_display, fun text path => parse_eq_ok_iff, ?_, ?_⟩
  · intro text path read
    -- The text and the other one are alike in what they are read as.
    refine ⟨parse_display path, ?_⟩
    intro other otherPath readOther
    rw [read, readOther, Except.ok.injEq, display_inj]
  · intro text unwritten
    exact ⟨parse_eq_error unwritten, rfl⟩

end Countersign.Path
