import Countersign.Json.Printing
import Countersign.Json.Reading
import Mathlib.Data.List.DropRight

/-! Texts that are read as a value wherever they stand, and how longer ones are made of them. -/

namespace Countersign.Json

variable {text rest blanks : List Char} {value : Value}

/-- A character at which a number ends: a blank or one of the marks between values. -/
def isStop (char : Char) : Bool :=
  isBlank char || char = ',' || char = ':' || char = ']' || char = '\x7d'

/-- Whatever follows a value in a text. -/
def Stops (rest : List Char) : Prop := ∀ char ∈ rest.head?, isStop char = true

/-- A text does not begin like the end of a bracketed value. -/
def Begins (text : List Char) : Prop :=
  ∃ char behind, skipBlanks text = char :: behind ∧ char ≠ ']' ∧ char ≠ '\x7d'

/-- A text that is read as a value, whatever stops it. -/
structure Spells (text : List Char) (value : Value) : Prop where
  /-- It is no closing mark. -/
  begins : Begins text
  /-- The value is read, and what follows is left, if the budget exceeds the length. -/
  reads : ∀ budget rest, text.length < budget → Stops rest →
    readValue budget (text ++ rest) = (value, rest)

/-! ### Blanks -/

/-- A character that is no blank is not skipped. -/
theorem skipBlanks_cons {char : Char} (solid : isBlank char = false) (behind : List Char) :
    skipBlanks (char :: behind) = char :: behind := by
  -- Skipping ends at the first character that is none.
  simp [skipBlanks, solid]

/-- Blanks in front are skipped. -/
theorem skipBlanks_append (blank : ∀ char ∈ blanks, isBlank char = true)
    (text : List Char) : skipBlanks (blanks ++ text) = skipBlanks text :=
  -- All of them are, and then those that follow.
  List.dropWhile_append_of_pos blank

/-- What follows a text does not change its beginning. -/
theorem skipBlanks_append_of_begins (begins : Begins text) (rest : List Char) :
    skipBlanks (text ++ rest) = skipBlanks text ++ rest := by
  -- A character that is no blank is left over, so the blanks end before the rest.
  obtain ⟨char, behind, same, -⟩ := begins
  rw [skipBlanks] at same
  simp [skipBlanks, List.dropWhile_append, same]

/-- What begins with a value still does so with something behind it. -/
theorem Begins.append (begins : Begins text) (rest : List Char) : Begins (text ++ rest) := by
  -- The first character stays the first one.
  obtain ⟨char, behind, same, notClosing⟩ := begins
  refine ⟨char, behind ++ rest, ?_, notClosing⟩
  rw [skipBlanks_append_of_begins ⟨char, behind, same, notClosing⟩, same]
  rfl

/-- Blanks in front make no difference to a value. -/
theorem readValue_skipBlanks (budget : Nat) (text : List Char) :
    readValue budget (skipBlanks text) = readValue budget text := by
  -- The reader skips blanks itself, and skipping them twice is skipping them once.
  have once : skipBlanks (skipBlanks text) = skipBlanks text := List.dropWhile_idempotent _ _
  cases budget with
  | zero => rfl
  | succ budget => rw [readValue, readValue, once]

/-- Blanks in front of elements do not matter. -/
theorem readElements_skipBlanks (budget : Nat) (text : List Char) :
    readElements budget (skipBlanks text) = readElements budget text := by
  cases budget with
  | zero => rfl
  -- Elements begin with a value, which skips blanks itself.
  | succ budget => rw [readElements, readElements, readValue_skipBlanks]

/-- Blanks in front of members do not matter. -/
theorem readMembers_skipBlanks (budget : Nat) (text : List Char) :
    readMembers budget (skipBlanks text) = readMembers budget text := by
  cases budget with
  | zero => rfl
  -- Members begin with a name, which is read as a value.
  | succ budget => rw [readMembers, readMembers, readValue_skipBlanks]

/-- Blanks in front of a value do not matter. -/
theorem Spells.indent (spells : Spells text value)
    (blank : ∀ char ∈ blanks, isBlank char = true) : Spells (blanks ++ text) value where
  begins := by
    rw [Begins, skipBlanks_append blank]
    exact spells.begins
  reads := by
    intro budget rest enough stops
    rw [List.length_append] at enough
    -- The blanks in front are taken off and those of the text itself put back.
    rw [List.append_assoc, ← readValue_skipBlanks, skipBlanks_append blank, readValue_skipBlanks]
    exact spells.reads budget rest (by omega) stops

/-! ### Words -/

/-- The word for nothing is read as nothing. -/
theorem spells_null : Spells "null".toList .null where
  begins := ⟨'n', _, rfl, by decide, by decide⟩
  reads := by
    -- One unit of the budget is enough.
    intro budget rest enough _
    obtain ⟨budget, rfl⟩ := Nat.exists_eq_add_of_lt enough
    rfl

/-- Truth values are read back. -/
theorem spells_bool (truth : Bool) : Spells (Value.bool truth).compact (.bool truth) := by
  -- Each of the two is a word of its own.
  cases truth with
  | true =>
    refine ⟨⟨'t', _, rfl, by decide, by decide⟩, ?_⟩
    intro budget rest enough _
    obtain ⟨budget, rfl⟩ := Nat.exists_eq_add_of_lt enough
    rfl
  | false =>
    refine ⟨⟨'f', _, rfl, by decide, by decide⟩, ?_⟩
    intro budget rest enough _
    obtain ⟨budget, rfl⟩ := Nat.exists_eq_add_of_lt enough
    rfl

/-! ### Quoted texts -/

/-- The two digits of a control character are read as that character. -/
theorem unitValue?_control {char : Char} (control : char.toNat < 0x20) :
    unitValue? '0' '0' (Nat.digitChar (char.toNat / 16)) (Nat.digitChar (char.toNat % 16)) =
      some char.toNat := by
  -- Below thirty-two there are two digits, and the two in front of them are zeros.
  have high := Text.hexValue?_digitChar (show char.toNat / 16 < 16 by omega)
  have low := Text.hexValue?_digitChar (show char.toNat % 16 < 16 by omega)
  have zero : Text.hexValue? '0' = some 0 := by decide
  simp [unitValue?, high, low, zero, Text.positional]
  omega

/-- An escaped character is read as that character. -/
theorem readText_escaped (char : Char) (reversed behind : List Char) :
    readText ⟨reversed, none, true⟩ (escaped char ++ behind) =
      readText ⟨char :: reversed, none, true⟩ behind := by
  unfold escaped
  -- All but the last case are those of characters with a letter of their own.
  split
  case h_8 =>
    split
    · rename_i control
      have unit := unitValue?_control control
      have plain : TextScan.pushUnit ⟨reversed, none, true⟩ char.toNat =
          ⟨char :: reversed, none, true⟩ := by
        simp [TextScan.pushUnit, show ¬ 0xD800 ≤ char.toNat by omega,
          show ¬ 0xDC00 ≤ char.toNat by omega]
      simp [readText, unit, plain]
    · rename_i printed
      rw [List.cons_append, List.nil_append, readText]
      · simp [TextScan.push, printed]
      all_goals simp_all
  all_goals rfl

/-- Escaped characters are read in turn. -/
theorem readText_flatMap_escaped (chars reversed behind : List Char) :
    readText ⟨reversed, none, true⟩ (chars.flatMap escaped ++ '"' :: behind) =
      (.ofString (String.ofList (reversed.reverse ++ chars)), behind) := by
  -- On the characters, with those read so far in reverse.
  induction chars generalizing reversed with
  | nil => simp [readText, TextScan.close, Value.ofString]
  | cons char rest ih =>
    rw [List.flatMap_cons, List.append_assoc, readText_escaped, ih]
    simp

/-- A text in quotes is read as that text. -/
theorem spells_quote (content : String) : Spells (quote content) (.ofString content) where
  begins := ⟨'"', _, rfl, by decide, by decide⟩
  reads := by
    intro budget rest enough _
    obtain ⟨budget, rfl⟩ := Nat.exists_eq_add_of_lt enough
    -- The mark in front is gone, and the characters are read up to the one behind.
    have read := readText_flatMap_escaped content.toList [] rest
    rw [List.reverse_nil, List.nil_append, String.ofList_toList] at read
    rw [quote, List.append_assoc]
    exact read

/-! ### Arrays -/

/-- Elements with commas between them, read up to the closing bracket. -/
structure SpellsElements (text : List Char) (values : List Value) : Prop where
  /-- There is an element. -/
  begins : Begins text
  /-- The elements are read, and what follows the bracket is left. -/
  reads : ∀ budget rest, text.length + 1 < budget →
    readElements budget (text ++ ']' :: rest) = (values, none, rest)

/-- A character that ends values ends them where it comes first. -/
theorem stops_cons {mark : Char} (stop : isStop mark = true) : Stops (mark :: rest) := by
  -- The first character is this one.
  intro char first
  cases first
  exact stop

/-- A character that ends values ends them behind blanks as well. -/
theorem stops_append (blank : ∀ char ∈ blanks, isBlank char = true) {mark : Char}
    (stop : isStop mark = true) : Stops (blanks ++ mark :: rest) := by
  cases blanks with
  | nil => exact stops_cons stop
  | cons first others =>
    intro char head
    cases head
    -- A blank ends a value too.
    simp [isStop, blank first (by simp)]

/-- A value with blanks behind it is read as the last element. -/
theorem Spells.lastElement (spells : Spells text value)
    (blank : ∀ char ∈ blanks, isBlank char = true) : SpellsElements (text ++ blanks) [value] where
  begins := spells.begins.append blanks
  reads := by
    intro budget rest enough
    rw [List.length_append] at enough
    obtain ⟨budget, rfl⟩ := Nat.exists_eq_add_of_lt enough
    -- The element stops at the blanks, or at the bracket if there are none.
    have read := spells.reads (text.length + blanks.length + 1 + budget) (blanks ++ ']' :: rest)
      (by omega) (stops_append blank rfl)
    rw [List.append_assoc, readElements, read]
    simp only [skipBlanks_append blank, skipBlanks_cons (show isBlank ']' = false from rfl)]

/-- A value with a comma behind it is read as one more element. -/
theorem Spells.element {others : List Char} {values : List Value} (spells : Spells text value)
    (more : SpellsElements others values) :
    SpellsElements (text ++ ',' :: others) (value :: values) where
  begins := spells.begins.append _
  reads := by
    intro budget rest enough
    rw [List.length_append, List.length_cons] at enough
    obtain ⟨budget, rfl⟩ := Nat.exists_eq_succ_of_ne_zero (Nat.ne_zero_of_lt enough)
    -- The element stops at the comma, and the others are read with a budget less by one.
    have first := spells.reads budget (',' :: (others ++ ']' :: rest)) (by omega)
      (stops_cons rfl)
    have behind := more.reads budget rest (by omega)
    rw [List.append_assoc, List.cons_append, readElements, first]
    simp only [skipBlanks_cons (show isBlank ',' = false from rfl), behind]

/-- No elements between brackets are an empty array. -/
theorem spells_nil : Spells ['[', ']'] (.ofList []) where
  begins := ⟨'[', _, rfl, by decide, by decide⟩
  reads := by
    -- The bracket that closes comes before any element is looked for.
    intro budget rest enough _
    obtain ⟨budget, rfl⟩ := Nat.exists_eq_succ_of_ne_zero (Nat.ne_zero_of_lt enough)
    rfl

/-- Behind an opening bracket and the beginning of a value there are elements. -/
theorem readValue_array (begins : Begins text) (budget : Nat) :
    readValue (budget + 1) ('[' :: text) =
      (.array (readElements budget text).1 (readElements budget text).2.1,
        (readElements budget text).2.2) := by
  obtain ⟨char, behind, same, notBracket, -⟩ := begins
  -- Of the three ways to go on, the text excludes the end of input and the bracket.
  rw [← readElements_skipBlanks, readValue, skipBlanks_cons (show isBlank '[' = false from rfl)]
  simp only [same]
  split
  · rename_i empty
    cases empty
  · rename_i closed
    exact absurd (List.cons.inj closed).1 notBracket
  · rfl

/-- Elements between brackets are an array. -/
theorem SpellsElements.spells {values : List Value} (elements : SpellsElements text values) :
    Spells ('[' :: text ++ [']']) (.ofList values) where
  begins := ⟨'[', _, rfl, by decide, by decide⟩
  reads := by
    intro budget rest enough _
    simp only [List.length_append, List.length_cons, List.length_nil] at enough
    obtain ⟨budget, rfl⟩ := Nat.exists_eq_succ_of_ne_zero (Nat.ne_zero_of_lt enough)
    -- The reader of arrays looks at the first character and leaves the rest to that of elements.
    have opened := readValue_array (elements.begins.append (']' :: rest)) budget
    rw [elements.reads budget rest (by omega)] at opened
    rw [List.append_assoc]
    exact opened

/-! ### Objects -/

/-- Members with commas between them, read up to the closing brace. -/
structure SpellsMembers (text : List Char) (members : List (Value × Value)) : Prop where
  /-- There is a member. -/
  begins : Begins text
  /-- The members are read, and what follows the brace is left. -/
  reads : ∀ budget rest, text.length + 1 < budget →
    readMembers budget (text ++ '\x7d' :: rest) = (members, none, rest)

variable {nameText : List Char} {name : Value}

/-- A name and a value with blanks behind them are read as the last member. -/
theorem Spells.lastMember (named : Spells nameText name) (spells : Spells text value)
    (blank : ∀ char ∈ blanks, isBlank char = true) :
    SpellsMembers (nameText ++ ':' :: text ++ blanks) [(name, value)] where
  begins := (named.begins.append _).append _
  reads := by
    intro budget rest enough
    simp only [List.length_append, List.length_cons] at enough
    obtain ⟨budget, rfl⟩ := Nat.exists_eq_succ_of_ne_zero (Nat.ne_zero_of_lt enough)
    -- The name stops at the colon, and the value at the blanks or at the brace.
    have first := named.reads budget (':' :: (text ++ (blanks ++ '\x7d' :: rest))) (by omega)
      (stops_cons rfl)
    have second := spells.reads budget (blanks ++ '\x7d' :: rest) (by omega)
      (stops_append blank rfl)
    rw [List.append_assoc, List.append_assoc, List.cons_append, readMembers, first]
    simp only [skipBlanks_cons (show isBlank ':' = false from rfl), second, skipBlanks_append blank,
      skipBlanks_cons (show isBlank '\x7d' = false from rfl)]

/-- A name and a value with a comma behind them are read as one more member. -/
theorem Spells.member {others : List Char} {members : List (Value × Value)}
    (named : Spells nameText name) (spells : Spells text value)
    (more : SpellsMembers others members) :
    SpellsMembers (nameText ++ ':' :: text ++ ',' :: others) ((name, value) :: members) where
  begins := (named.begins.append _).append _
  reads := by
    intro budget rest enough
    simp only [List.length_append, List.length_cons] at enough
    obtain ⟨budget, rfl⟩ := Nat.exists_eq_succ_of_ne_zero (Nat.ne_zero_of_lt enough)
    -- The name stops at the colon, and the value at the comma.
    have first := named.reads budget (':' :: (text ++ (',' :: (others ++ '\x7d' :: rest))))
      (by omega) (stops_cons rfl)
    have second := spells.reads budget (',' :: (others ++ '\x7d' :: rest)) (by omega)
      (stops_cons rfl)
    have behind := more.reads budget rest (by omega)
    rw [List.append_assoc, List.append_assoc, List.cons_append, List.cons_append, readMembers,
      first]
    simp only [skipBlanks_cons (show isBlank ':' = false from rfl), second,
      skipBlanks_cons (show isBlank ',' = false from rfl), behind]

/-- No members between braces are an empty object. -/
theorem spells_empty : Spells ['\x7b', '\x7d'] (.object [] none) where
  begins := ⟨'\x7b', _, rfl, by decide, by decide⟩
  reads := by
    -- The brace that closes comes before any member is looked for.
    intro budget rest enough _
    obtain ⟨budget, rfl⟩ := Nat.exists_eq_succ_of_ne_zero (Nat.ne_zero_of_lt enough)
    rfl

/-- Behind an opening brace and the beginning of a value there are members. -/
theorem readValue_object (begins : Begins text) (budget : Nat) :
    readValue (budget + 1) ('\x7b' :: text) =
      (.object (readMembers budget text).1 (readMembers budget text).2.1,
        (readMembers budget text).2.2) := by
  obtain ⟨char, behind, same, -, notBrace⟩ := begins
  -- Of the three ways to go on, the text excludes the end of input and the brace.
  rw [← readMembers_skipBlanks, readValue,
    skipBlanks_cons (show isBlank '\x7b' = false from rfl)]
  simp only [same]
  split
  · rename_i empty
    cases empty
  · rename_i closed
    exact absurd (List.cons.inj closed).1 notBrace
  · rfl

/-- Members between braces are an object. -/
theorem SpellsMembers.spells {members : List (Value × Value)}
    (spelled : SpellsMembers text members) :
    Spells ('\x7b' :: text ++ ['\x7d']) (.object members none) where
  begins := ⟨'\x7b', _, rfl, by decide, by decide⟩
  reads := by
    intro budget rest enough _
    simp only [List.length_append, List.length_cons, List.length_nil] at enough
    obtain ⟨budget, rfl⟩ := Nat.exists_eq_succ_of_ne_zero (Nat.ne_zero_of_lt enough)
    -- The reader of objects leaves everything to that of members, unless it is closed at once.
    have opened := readValue_object (spelled.begins.append ('\x7d' :: rest)) budget
    rw [spelled.reads budget rest (by omega)] at opened
    rw [List.append_assoc]
    exact opened

/-! ### Whole texts -/

/-- A text that is read as a value is a document of that value. -/
theorem Spells.readDocument (spells : Spells text value) :
    readDocument (String.ofList text) = (value, false) := by
  -- The budget of a document is above twice its length.
  have read := spells.reads (2 * text.length + 2) [] (by omega) (by intro char none; cases none)
  rw [List.append_nil] at read
  simp [Json.readDocument, read, skipBlanks]

end Countersign.Json
