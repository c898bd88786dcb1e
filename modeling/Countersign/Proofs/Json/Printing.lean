import Countersign.Proofs.Json.Literal

/-! Values without flaws are read back from their texts, compact or indented. -/

namespace Countersign.Json

/-- A value that can be written: nothing in it breaks off, and its numbers are natural. -/
inductive Value.Plain : Value → Prop
  /-- The word for nothing. -/
  | null : Plain .null
  /-- A truth word. -/
  | bool (truth : Bool) : Plain (.bool truth)
  /-- A natural number. -/
  | number (number : Nat) : Plain (.ofNat number)
  /-- A text. -/
  | text (content : String) : Plain (.ofString content)
  /-- An array of such values. -/
  | list {values : List Value} (each : ∀ value ∈ values, Plain value) : Plain (.ofList values)
  /-- An object of such values. -/
  | members {members : List (String × Value)} (each : ∀ member ∈ members, Plain member.2) :
    Plain (.ofMembers members)

/-- Texts with commas between them. -/
def commas : List (List Char) → List Char
  | [] => []
  | [text] => text
  | text :: rest => text ++ ',' :: commas rest

/-- Elements are written with commas between them. -/
theorem compactElements_eq (values : List Value) :
    compactElements values = commas (values.map Value.compact) := by
  -- On the values; a comma stands behind a value if there is another one.
  induction values with
  | nil => rfl
  | cons value rest ih => cases rest <;> simp_all [compactElements, commas]

/-- Members are written with commas between them, and colons between names and values. -/
theorem compactMembers_eq (members : List (Value × Value)) :
    compactMembers members =
      commas (members.map fun member => member.1.compact ++ ':' :: member.2.compact) := by
  -- On the members, as with elements.
  induction members with
  | nil => rfl
  | cons member rest ih => cases rest <;> simp_all [compactMembers, commas]

/-- On lines of their own elements are written with commas between them as well. -/
theorem indentedElements_eq (level : Nat) (values : List Value) :
    indentedElements level values =
      commas (values.map fun value => newLine level ++ value.indented level) := by
  -- On the values, each of which begins a line.
  induction values with
  | nil => rfl
  | cons value rest ih => cases rest <;> simp_all [indentedElements, commas]

/-- On lines of their own members are written with commas between them, and a colon and a blank
between a name and its value. -/
theorem indentedMembers_eq (level : Nat) (members : List (Value × Value)) :
    indentedMembers level members =
      commas (members.map fun member =>
        (newLine level ++ member.1.compact) ++ ':' :: (' ' :: member.2.indented level)) := by
  -- On the members, each of which begins a line.
  induction members with
  | nil => rfl
  | cons member rest ih => cases rest <;> simp_all [indentedMembers, commas]

/-- Elements between brackets are read however each of them is spelled. -/
theorem spells_array {values : List Value} {spell : Value → List Char} (filled : values ≠ [])
    (each : ∀ value ∈ values, Spells (spell value) value) (blanks : List Char)
    (blank : ∀ char ∈ blanks, isBlank char = true) :
    Spells ('[' :: commas (values.map spell) ++ blanks ++ [']']) (.array values none) := by
  apply SpellsElements.spells
  -- On the values: the last one stands before the blanks, every other one before a comma.
  induction values with
  | nil => exact absurd rfl filled
  | cons value rest ih =>
    have first := each value (by simp)
    cases rest with
    | nil => exact first.lastElement blank
    | cons second others =>
      have more := ih (by simp) fun other member => each other (List.mem_cons_of_mem _ member)
      simpa [commas] using first.element more

/-- Members between braces are read however each name and each value is spelled. -/
theorem spells_object {members : List (Value × Value)}
    {spellName spell : Value × Value → List Char} (filled : members ≠ [])
    (each : ∀ member ∈ members,
      Spells (spellName member) member.1 ∧ Spells (spell member) member.2)
    (blanks : List Char) (blank : ∀ char ∈ blanks, isBlank char = true) :
    Spells ('\x7b' :: commas (members.map fun member => spellName member ++ ':' :: spell member) ++
      blanks ++ ['\x7d']) (.object members none) := by
  apply SpellsMembers.spells
  -- On the members, each with its name in front.
  induction members with
  | nil => exact absurd rfl filled
  | cons member rest ih =>
    obtain ⟨named, spelled⟩ := each member (by simp)
    cases rest with
    | nil => exact named.lastMember spelled blank
    | cons second others =>
      have more := ih (by simp) fun other inside => each other (List.mem_cons_of_mem _ inside)
      simpa [commas] using named.member spelled more

/-- A natural number is written as its digits. -/
theorem compact_ofNat (number : Nat) : (Value.ofNat number).compact = Nat.toDigits 10 number := by
  -- It has no sign, no fraction and no exponent.
  simp [Value.ofNat, Value.compact, Text.Decimal.chars]

/-- An object of named values has their names as texts. -/
theorem ofMembers_eq (members : List (String × Value)) : Value.ofMembers members =
    .object (members.map fun member => (.ofString member.1, member.2)) none := rfl

/-- A value is read back from its shortest text. -/
theorem Value.Plain.spells_compact {value : Value} (plain : value.Plain) :
    Spells value.compact value := by
  -- On how the value is made up: brackets and braces hold texts that are read where they stand.
  induction plain with
  | null => exact spells_null
  | bool truth => exact spells_bool truth
  | number number =>
    rw [compact_ofNat]
    exact spells_toDigits number
  | text content => exact spells_quote content
  | @list values _ ih =>
    rw [ofList, compact, compactElements_eq]
    by_cases filled : values = []
    · rw [filled]
      exact spells_nil
    · simpa using spells_array filled ih [] (by simp)
  | @members members _ ih =>
    rw [ofMembers_eq, compact, compactMembers_eq]
    by_cases filled : members = []
    · rw [filled]
      exact spells_empty
    · have each : ∀ member ∈ members.map fun member => (ofString member.1, member.2),
          Spells member.1.compact member.1 ∧ Spells member.2.compact member.2 := by
        intro member listed
        obtain ⟨original, inside, rfl⟩ := List.mem_map.mp listed
        exact ⟨spells_quote original.1, ih original inside⟩
      simpa using spells_object (by simpa using filled) each [] (by simp)

/-- A new line and the blanks behind it are blanks. -/
theorem isBlank_of_mem_newLine {level : Nat} {char : Char} (member : char ∈ newLine level) :
    isBlank char = true := by
  rcases List.mem_cons.mp member with rfl | indent
  · rfl
  -- Behind the line break there are spaces only.
  · rw [(List.mem_replicate.mp indent).2]
    rfl

/-- A list that is not empty has its elements on lines of their own. -/
theorem indented_array {values : List Value} (filled : values ≠ []) (level : Nat) :
    (Value.array values none).indented level =
      '[' :: indentedElements (level + 1) values ++ newLine level ++ [']'] := by
  -- Only empty brackets stay on one line.
  cases values with
  | nil => exact absurd rfl filled
  | cons value rest => rfl

/-- An object that is not empty has its members on lines of their own. -/
theorem indented_object {members : List (Value × Value)} (filled : members ≠ []) (level : Nat) :
    (Value.object members none).indented level =
      '\x7b' :: indentedMembers (level + 1) members ++ newLine level ++ ['\x7d'] := by
  -- Only empty braces stay on one line.
  cases members with
  | nil => exact absurd rfl filled
  | cons member rest => rfl

/-- A value is read back from its indented text, however deep it stands. -/
theorem Value.Plain.spells_indented {value : Value} (plain : value.Plain) (level : Nat) :
    Spells (value.indented level) value := by
  -- On how the value is made up, at any depth: what it holds stands one level deeper.
  induction plain generalizing level with
  | null => exact spells_null
  | bool truth => exact spells_bool truth
  | number number => exact (Plain.number number).spells_compact
  | text content => exact spells_quote content
  | @list values _ ih =>
    by_cases filled : values = []
    · rw [filled]
      exact spells_nil
    · -- The new line in front of an element is blank, so it belongs to the element's own text.
      have each : ∀ element ∈ values,
          Spells (newLine (level + 1) ++ element.indented (level + 1)) element :=
        fun element member => (ih element member (level + 1)).indent fun _ => isBlank_of_mem_newLine
      rw [ofList, indented_array filled, indentedElements_eq]
      exact spells_array filled each _ fun _ => isBlank_of_mem_newLine
  | @members members _ ih =>
    by_cases filled : members = []
    · rw [filled]
      exact spells_empty
    · have each : ∀ element ∈ members.map fun member => (ofString member.1, member.2),
          Spells (newLine (level + 1) ++ element.1.compact) element.1 ∧
            Spells (' ' :: element.2.indented (level + 1)) element.2 := by
        intro element listed
        obtain ⟨original, inside, rfl⟩ := List.mem_map.mp listed
        have spaced : Spells ([' '] ++ original.2.indented (level + 1)) original.2 :=
          (ih original inside (level + 1)).indent (by simp [isBlank])
        exact ⟨(spells_quote original.1).indent fun _ => isBlank_of_mem_newLine, spaced⟩
      have named : members.map (fun member => (ofString member.1, member.2)) ≠ [] := by
        simpa using filled
      rw [ofMembers_eq, indented_object named, indentedMembers_eq]
      exact spells_object named each _ fun _ => isBlank_of_mem_newLine

end Countersign.Json
