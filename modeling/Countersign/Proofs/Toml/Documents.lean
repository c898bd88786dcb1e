import Countersign.Proofs.Toml.Quoting
import Countersign.Proofs.Toml.Scalar
import Countersign.Toml.Reading

/-! Documents of plain lines: keys with their values, and headers of tables. -/

namespace Countersign.Toml

variable {char : Char} {name : String} {written rest text : List Char} {value : Value}
variable {entries inner outer : Entries} {header : List String}

/-! ### Keys -/

/-- A name that is written as a key without quotes. -/
structure IsBare (name : String) : Prop where
  /-- The name is not empty. -/
  filled : name.toList ≠ []
  /-- All its characters are plain ones. -/
  all : ∀ char ∈ name.toList, isBareKey char = true

/-- A name is written as a key if that can be tested. -/
theorem isBare_of_all (filled : name.toList.isEmpty = false)
    (all : name.toList.all isBareKey = true) : IsBare name :=
  -- Both conditions are those of the test.
  ⟨List.isEmpty_eq_false_iff.mp filled, List.all_eq_true.mp all⟩

/-- A name that is written as a key begins with none of the marks that begin other things. -/
theorem IsBare.exists_cons (bare : IsBare name) : ∃ first others, name.toList = first :: others ∧
    ∀ mark, isBareKey mark = false → first ≠ mark := by
  obtain ⟨first, others, same⟩ := List.exists_cons_of_ne_nil bare.filled
  refine ⟨first, others, same, ?_⟩
  rintro mark other rfl
  -- Such a mark would be allowed in a name.
  have plain := bare.all first (by rw [same]; exact List.mem_cons_self)
  rw [other] at plain
  cases plain

/-- A line that begins with a name begins with no mark. -/
theorem IsBare.append_ne_cons (bare : IsBare name) {mark : Char} (other : isBareKey mark = false)
    (behind : List Char) : name.toList ++ rest ≠ mark :: behind := by
  -- The first character belongs to the name, whatever follows.
  obtain ⟨first, others, same, apart⟩ := bare.exists_cons
  rw [same]
  intro equal
  exact apart mark other (List.cons.inj equal).1

/-- No blanks are skipped in front of something else. -/
theorem skipBlanks_cons (solid : isBlank char = false) :
    skipBlanks (char :: rest) = char :: rest := by
  -- Skipping ends at the first character that is no blank.
  rw [skipBlanks, List.dropWhile_cons_of_neg (by simp [solid])]

/-- The first character of a name is no blank. -/
theorem IsBare.isBlank {first : Char} (apart : ∀ mark, isBareKey mark = false → first ≠ mark) :
    isBlank first = false := by
  -- There are two blanks, and a name allows neither.
  simp [Toml.isBlank, apart ' ' rfl, apart '\t' rfl]

/-- No blanks are skipped in front of a name. -/
theorem IsBare.skipBlanks (bare : IsBare name) (rest : List Char) :
    skipBlanks (name.toList ++ rest) = name.toList ++ rest := by
  obtain ⟨first, others, same, apart⟩ := bare.exists_cons
  -- Only the first character is looked at.
  rw [same, List.cons_append, skipBlanks_cons (IsBare.isBlank apart)]

/-- A name is read as one part of a key up to where it ends. -/
theorem IsBare.readKeyPart? (bare : IsBare name)
    (ends : ∀ first ∈ rest.head?, isBareKey first = false) :
    readKeyPart? (name.toList ++ rest) = some (name, rest) := by
  have taken := Text.takeWhile_front bare.all ends
  have dropped := Text.dropWhile_front bare.all ends
  -- A name is the last of three forms, and the others begin with a quote.
  rw [Toml.readKeyPart?]
  · simp [taken, dropped, bare.filled]
  all_goals exact bare.append_ne_cons rfl

/-- A name without a dot behind it is a key of one part. -/
theorem IsBare.readKey? (bare : IsBare name)
    (ends : ∀ first ∈ rest.head?, isBareKey first = false)
    (undotted : ∀ other, Toml.skipBlanks rest ≠ '.' :: other) :
    readKey? (name.toList ++ rest) = some ([name], Toml.skipBlanks rest) := by
  -- The limit on dots is not reached by the first part.
  rw [Toml.readKey?, show depthLimit - 1 = 78 + 1 from rfl, readKeyParts?, bare.skipBlanks,
    bare.readKeyPart? ends]
  simp

/-! ### Values -/

/-- A value with the characters that it is written as at the end of a line. -/
structure Spells (written : List Char) (value : Value) : Prop where
  /-- No blank stands in front. -/
  front : ∀ first ∈ written.head?, isBlank first = false
  /-- The value is read up to the end of the line. -/
  read : ∀ budget rest,
    readValue? (budget + 1) 0 (written ++ '\n' :: rest) = some (value, '\n' :: rest)

/-- The blank between the equals sign and a value is skipped, and nothing of the value is. -/
theorem Spells.skipBlanks (spells : Spells written value) (rest : List Char) :
    skipBlanks (' ' :: (written ++ '\n' :: rest)) = written ++ '\n' :: rest := by
  rw [Toml.skipBlanks, List.dropWhile_cons_of_pos rfl]
  cases written with
  -- An empty value would leave the line break, which is no blank here.
  | nil => rfl
  | cons first others =>
    exact List.dropWhile_cons_of_neg (by simp [spells.front first rfl])

/-- A quoted text is read back. -/
theorem spells_quote (text : List Char) : Spells (quote text) (.text (String.ofList text)) where
  -- Either quote begins with a mark, which is no blank.
  front := by
    obtain ⟨mark, inner, same, known⟩ := exists_quote text
    rw [same]
    rintro first ⟨⟩
    rcases known with rfl | rfl <;> rfl
  read budget rest := by
    -- A line break follows, so no further quote can belong to the text.
    have ends : EndsQuotes ('\n' :: rest) := by simp [EndsQuotes]
    have read := readText?_quote ends text
    obtain ⟨mark, inner, same, rfl | rfl⟩ := exists_quote text
    · rw [same, List.cons_append] at read ⊢
      rw [readValue?, read]
      rfl
    · rw [same, List.cons_append] at read ⊢
      rw [readValue?, read]
      rfl

/-- A digit is no blank. -/
theorem isBlank_of_isDigit : ∀ char, Text.isDigit char = true → isBlank char = false := by
  -- There are ten digits, and each is compared with the blanks.
  decide

/-- A digit may stand in a value without quotes. -/
theorem isScalarChar_of_isDigit : ∀ char, Text.isDigit char = true → isScalarChar char = true := by
  -- There are ten digits, and each may.
  decide

/-- So are the digits of a number that is not too large. -/
theorem spells_toDigits {number : Nat} (fits : number < Nat.pow 2 63) :
    Spells (Nat.toDigits 10 number) (.integer number) where
  front := by
    intro first front
    exact isBlank_of_isDigit first (Text.isDigit_of_mem_toDigits (List.mem_of_mem_head? front))
  read budget rest := by
    have written := Text.isDigits_toDigits number
    have scalar : ∀ char ∈ Nat.toDigits 10 number, isScalarChar char = true :=
      fun char member => isScalarChar_of_isDigit char (written.all char member)
    -- The line break ends the value, since it may not stand in one.
    have ends : ∀ char ∈ ('\n' :: rest).head?, isScalarChar char = false := by
      rintro char ⟨⟩
      decide
    rw [readValue?]
    · simp [readScalar?, Text.takeWhile_front scalar ends, Text.dropWhile_front scalar ends,
        scalar?_toDigits fits]
    -- The other forms of a value begin with a mark that is no digit.
    all_goals exact written.append_ne_cons rfl

/-! ### Lines -/

/-- A line may end at once. -/
theorem endLine?_break (rest : List Char) : endLine? ('\n' :: rest) = some rest := rfl

/-- A line that begins with a name is not at its end. -/
theorem IsBare.endLine? (bare : IsBare name) (rest : List Char) :
    endLine? (name.toList ++ rest) = none := by
  -- Neither a comment nor a line break begins with what a name begins with.
  obtain ⟨first, others, same, apart⟩ := bare.exists_cons
  rw [Toml.endLine?, bare.skipBlanks, same]
  simp [skipComment, lineBreak?, apart '#' rfl, apart '\n' rfl, apart '\r' rfl]

/-- A key with its value on a line of its own. -/
structure Assignment where
  /-- The key. -/
  name : String
  /-- The value as it is written. -/
  written : List Char
  /-- The value. -/
  value : Value

namespace Assignment

/-- The line of an assignment. -/
def line (assignment : Assignment) : List Char :=
  assignment.name.toList ++ [' ', '=', ' '] ++ assignment.written ++ ['\n']

/-- The entry that an assignment makes. -/
def entry (assignment : Assignment) : String × Value := (assignment.name, assignment.value)

/-- A name that needs no quotes, and a spelling of the value. -/
structure WellFormed (assignment : Assignment) : Prop where
  /-- The name needs no quotes. -/
  bare : IsBare assignment.name
  /-- The value is what is read from its spelling. -/
  spells : Spells assignment.written assignment.value

end Assignment

/-- The line of an assignment adds its entry under the last header. -/
theorem readLine?_assignment {assignment : Assignment} (formed : assignment.WellFormed)
    {changed : Entries} (rest : List Char)
    (stored : entries.insertUnder header [assignment.name] assignment.value = some changed) :
    Document.readLine? ⟨entries, header⟩ (assignment.line ++ rest) =
      some (⟨changed, header⟩, rest) := by
  -- A line is a key, an equals sign between two blanks, a value and a line break.
  have split : assignment.line ++ rest =
      assignment.name.toList ++ (' ' :: '=' :: ' ' :: (assignment.written ++ '\n' :: rest)) := by
    simp [Assignment.line]
  -- The key ends at the blank, behind which there is no dot.
  have key : readKey? (assignment.name.toList ++
      (' ' :: '=' :: ' ' :: (assignment.written ++ '\n' :: rest))) =
      some ([assignment.name], '=' :: ' ' :: (assignment.written ++ '\n' :: rest)) :=
    formed.bare.readKey? (by rintro char ⟨⟩; decide) (by rintro other ⟨⟩)
  have unended := formed.bare.endLine? (' ' :: '=' :: ' ' :: (assignment.written ++ '\n' :: rest))
  rw [split, Document.readLine?]
  · simp only [unended, key, Option.bind_eq_bind, Option.bind_some, formed.spells.skipBlanks,
      formed.spells.read, stored, endLine?_break]
    rfl
  -- The line is no header, neither of a table nor of one in an array.
  · exact fun behind => formed.bare.append_ne_cons rfl _
  · exact formed.bare.append_ne_cons rfl

/-- The line of a header begins a table. -/
theorem readLine?_header (bare : IsBare name) (header : List String)
    (fresh : entries.lookup name = none) :
    Document.readLine? ⟨entries, header⟩ ('[' :: (name.toList ++ [']', '\n'] ++ rest)) =
      some (⟨entries ++ [(name, .table .header [])], [name]⟩, rest) := by
  -- The key ends at the bracket.
  have key : readKey? (name.toList ++ ']' :: '\n' :: rest) = some ([name], ']' :: '\n' :: rest) :=
    bare.readKey? (by rintro char ⟨⟩; decide) (by rintro other ⟨⟩)
  have opened : entries.openTable [name] = some (entries ++ [(name, .table .header [])]) := by
    simp [Entries.openTable, Entries.alter, fresh]
  rw [List.append_assoc, List.cons_append, List.cons_append, List.nil_append, Document.readLine?]
  · rw [key]
    simp [opened, endLine?_break]
  -- A second bracket would begin the name.
  · exact bare.append_ne_cons rfl

/-! ### Runs of lines -/

namespace Document

/-- A document with a text read to its end. -/
def Reads (document : Document) (text : List Char) (final : Document) : Prop :=
  -- The budget of a document exceeds its length.
  ∀ budget, text.length < budget → readLines? budget document text = some final

variable {document after final : Document}

/-- Of an empty text no line is read. -/
theorem Reads.nil (document : Document) : document.Reads [] document := by
  intro budget enough
  -- One step is left in any budget that is enough.
  obtain ⟨budget, rfl⟩ := Nat.exists_eq_add_of_lt enough
  rfl

/-- A line is followed by the others. -/
theorem Reads.next (line : document.readLine? text = some (after, rest))
    (front : skipBlanks text = text) (shorter : rest.length < text.length)
    (reads : after.Reads rest final) : document.Reads text final := by
  intro budget enough
  -- The line takes one step of the budget, and at least one character off the text.
  obtain ⟨budget, rfl⟩ := Nat.exists_eq_add_of_lt enough
  rw [readLines?, front]
  cases text with
  | nil => cases shorter
  | cons first others =>
    simp only [line, Option.bind_eq_bind, Option.bind_some]
    exact reads _ (by omega)

end Document

/-- A header under which entries are added at the end of one table. -/
def Gathers (header : List String) (build : Entries → Entries) : Prop :=
  -- The table must not have an entry of that name.
  ∀ inner name value, List.lookup name inner = none →
    (build inner).insertUnder header [name] value = some (build (inner ++ [(name, value)]))

/-- Without a header entries are put behind those of the document. -/
theorem gathers_nil : Gathers [] id := by
  intro inner name value fresh
  -- The path is empty, so the entry goes where it is.
  simp [Entries.insertUnder, Entries.insert, Entries.alter, fresh]

/-- The last entry is replaced by one of its own name if no other has it. -/
theorem put_append (fresh : outer.lookup name = none) (old value : Value) :
    Entries.put (outer ++ [(name, old)]) name value = outer ++ [(name, value)] := by
  induction outer with
  | nil => simp [Entries.put]
  -- On the entries in front, which have other names and stay.
  | cons entry rest ih =>
    obtain ⟨other, held⟩ := entry
    by_cases same : name = other
    · simp [same] at fresh
    · have behind : rest.lookup name = none := by
        simpa only [List.lookup_cons, beq_false_of_ne same] using fresh
      simp [Entries.put, Ne.symm same, ih behind]

/-- Under a header entries are put behind those of its table. -/
theorem gathers_table (fresh : outer.lookup name = none) :
    Gathers [name] fun inner => outer ++ [(name, .table .header inner)] := by
  intro inner key value unused
  -- The table is the last entry, and it is found by its name.
  have found : List.lookup name (outer ++ [(name, .table .header inner)]) =
      some (Value.table .header inner) := by
    simp [List.lookup_append, fresh]
  simp [Entries.insertUnder, Entries.insert, Entries.alter, found, unused, put_append fresh]

/-- The lines of assignments add their entries in turn under the last header. -/
theorem reads_assignments {build : Entries → Entries} (gathers : Gathers header build)
    {assignments : List Assignment} (formed : ∀ assignment ∈ assignments, assignment.WellFormed)
    (distinct : (inner.map Prod.fst ++ assignments.map Assignment.name).Nodup) {final : Document}
    (reads :
      Document.Reads ⟨build (inner ++ assignments.map Assignment.entry), header⟩ rest final) :
    Document.Reads ⟨build inner, header⟩ (assignments.flatMap Assignment.line ++ rest) final := by
  -- On the assignments, with the entries made so far: each adds its own behind them.
  induction assignments generalizing inner with
  | nil => simpa using reads
  | cons assignment others ih =>
    obtain ⟨here, behind⟩ := List.forall_mem_cons.mp formed
    -- The name is new, for it is neither among the entries nor a second time in the lines.
    have fresh : inner.lookup assignment.name = none := by
      rw [List.lookup_eq_none_iff]
      intro entry member
      have apart := (List.nodup_append.mp distinct).2.2 entry.1 (List.mem_map_of_mem member)
        assignment.name List.mem_cons_self
      simpa using Ne.symm apart
    have line := readLine?_assignment here (others.flatMap Assignment.line ++ rest)
      (gathers inner _ assignment.value fresh)
    rw [List.flatMap_cons, List.append_assoc]
    refine .next line ?_ ?_ (ih behind ?_ ?_)
    · rw [Assignment.line, List.append_assoc, List.append_assoc, List.append_assoc,
        here.bare.skipBlanks]
    · simp only [Assignment.line, List.length_append, List.length_cons]
      omega
    · simpa using distinct
    · simpa [Assignment.entry] using reads

/-- An empty line changes nothing. -/
theorem reads_break {document final : Document} (reads : document.Reads rest final) :
    document.Reads ('\n' :: rest) final :=
  -- It is a line that says nothing.
  .next rfl rfl (Nat.lt_succ_self _) reads

/-- Behind a header the entries of its table are added. -/
theorem reads_header (bare : IsBare name) (header : List String)
    (fresh : entries.lookup name = none) {final : Document}
    (reads : Document.Reads ⟨entries ++ [(name, .table .header [])], [name]⟩ rest final) :
    Document.Reads ⟨entries, header⟩ ('[' :: (name.toList ++ [']', '\n'] ++ rest)) final := by
  -- No blanks stand in front of the bracket.
  refine .next (readLine?_header bare header fresh) rfl ?_ reads
  simp only [List.length_cons, List.length_append]
  omega

/-- A byte order mark begins no line. -/
theorem not_reads_mark {document final : Document} : ¬ document.Reads ('\uFEFF' :: rest) final := by
  intro reads
  -- The mark belongs to no name, is no blank and ends no line.
  have unnamed : ('\uFEFF' :: rest).takeWhile isBareKey = [] :=
    List.takeWhile_cons_of_neg (by decide)
  have solid : skipBlanks ('\uFEFF' :: rest) = '\uFEFF' :: rest := skipBlanks_cons rfl
  have unended : endLine? ('\uFEFF' :: rest) = none := by
    rw [endLine?, solid]
    rfl
  have part : readKeyPart? ('\uFEFF' :: rest) = none := by
    rw [readKeyPart?, unnamed]
    · rfl
    · rintro other ⟨⟩
    · rintro other ⟨⟩
  have key : readKey? ('\uFEFF' :: rest) = none := by
    rw [readKey?, show depthLimit - 1 = 78 + 1 from rfl, readKeyParts?, solid, part]
    rfl
  have unread : document.readLine? ('\uFEFF' :: rest) = none := by
    rw [Document.readLine?, unended, key]
    · rfl
    · rintro other ⟨⟩
    · rintro other ⟨⟩
  -- So the budget does not matter: the first line cannot be read.
  have read := reads _ (Nat.lt_succ_self _)
  simp [Document.readLines?, solid, unread] at read

/-- A document that can be read line by line is parsed as what these lines make. -/
theorem parse?_of_reads {final : Document} (reads : Document.Reads ⟨[], []⟩ text final) :
    parse? (String.ofList text) = some final.entries := by
  -- As many steps as there are characters, and one more, are enough.
  have whole := reads _ (Nat.lt_succ_self _)
  rw [parse?, String.toList_ofList]
  split
  -- A mark in front would be dropped, but there is none.
  · exact absurd reads not_reads_mark
  · rw [whole]
    rfl

end Countersign.Toml
