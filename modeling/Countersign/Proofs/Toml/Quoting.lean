import Countersign.Proofs.Text.Parts
import Countersign.Toml.Quoted
import Countersign.Toml.Writing

/-! Quoted texts are read back from each of the four spellings that they are written in. -/

namespace Countersign.Toml

variable {reads : List Char → Step} {char : Char} {text content more rest : List Char}

/-! ### Steps -/

/-- What the steps inside a quoted text gather, and what they leave. -/
def Scans (reads : List Char → Step) (text content rest : List Char) : Prop :=
  -- The budget of a quoted text exceeds its length.
  ∀ reversed budget, text.length < budget →
    readSteps reads budget reversed text = some (String.ofList (reversed.reverse ++ content), rest)

/-- A step that finds the closing quotes ends the text. -/
theorem Scans.close (closes : reads text = .close content rest) :
    Scans reads text content rest := by
  intro reversed budget enough
  -- One step is left in any budget that is enough.
  obtain ⟨budget, rfl⟩ := Nat.exists_eq_add_of_lt enough
  rw [readSteps, closes]
  simp

/-- A step that takes one character off is followed by the others. -/
theorem Scans.next (goes : reads text = .content [char] more) (shorter : more.length < text.length)
    (scans : Scans reads more content rest) : Scans reads text (char :: content) rest := by
  intro reversed budget enough
  obtain ⟨budget, rfl⟩ := Nat.exists_eq_add_of_lt enough
  rw [readSteps, goes]
  -- The characters so far are kept in reverse, so this one goes in front of them.
  have after := scans (char :: reversed) (text.length + budget) (by omega)
  rw [List.reverse_cons, List.append_assoc] at after
  exact after

/-! ### Escapes -/

/-- The codes behind a backslash that stand for a character. They cannot be taken for the blanks
behind a backslash at the end of a line. -/
structure IsEscape (code : List Char) (char : Char) : Prop where
  /-- The code is read as the character. -/
  read : ∀ rest, readEscape? (code ++ rest) = some (char, rest)
  /-- No line ends in front of it. -/
  solid : ∀ rest, lineBreak? (skipBlanks (code ++ rest)) = none

/-- A capital digit has the value it was written for. -/
theorem hexValue?_capitalDigit {value : Nat} (small : value < 16) :
    Text.hexValue? (capitalDigit value) = some value := by
  -- There are sixteen of them.
  revert value
  decide

/-- A control character is read from its code point. -/
theorem isEscape_codePoint (ascii : char.toNat < 128) : IsEscape
    ['u', '0', '0', capitalDigit (char.toNat / 16), capitalDigit (char.toNat % 16)] char where
  read rest := by
    have high := hexValue?_capitalDigit (show char.toNat / 16 < 16 by omega)
    have low := hexValue?_capitalDigit (show char.toNat % 16 < 16 by omega)
    -- Two digits are enough for what has two, and the others are zeros.
    have code : Text.positional 16 [0, 0, char.toNat / 16, char.toNat % 16] = char.toNat := by
      simp only [Text.positional, List.foldl_cons, List.foldl_nil]
      omega
    have zero : Text.hexValue? '0' = some 0 := rfl
    have valid : char.toNat.isValidChar := char.valid
    simp [readEscape?, codePoint?, high, low, code, zero, valid]
  solid rest := rfl

/-- Inside double quotes a character stands for itself, or behind a backslash as a code. -/
theorem escapeChar_cases (char : Char) :
    (isPlain char = true ∧ char ≠ '\\' ∧ escapeChar char = [char]) ∨
      ∃ code, IsEscape code char ∧ escapeChar char = '\\' :: code := by
  -- Five characters have a letter of their own.
  fun_cases escapeChar char
  · exact .inr ⟨_, ⟨fun _ => rfl, fun _ => rfl⟩, rfl⟩
  · exact .inr ⟨_, ⟨fun _ => rfl, fun _ => rfl⟩, rfl⟩
  · exact .inr ⟨_, ⟨fun _ => rfl, fun _ => rfl⟩, rfl⟩
  · exact .inr ⟨_, ⟨fun _ => rfl, fun _ => rfl⟩, rfl⟩
  · exact .inr ⟨_, ⟨fun _ => rfl, fun _ => rfl⟩, rfl⟩
  -- The other controls are written as codes.
  · rename_i control _ _ _ _ _
    exact .inr ⟨_, isEscape_codePoint (by omega), if_pos control⟩
  · rename_i visible _ _ _ _ backslash
    -- A character that is no control and no backslash may stand as it is.
    have plain : isPlain char = true := by
      simp only [isPlain, Bool.or_eq_true, Bool.and_eq_true, decide_eq_true_eq]
      omega
    exact .inl ⟨plain, backslash, if_neg visible⟩

/-! ### One line -/

/-- A backslash is followed by a code. -/
theorem IsEscape.escapeStep {code : List Char} (escape : IsEscape code char) (rest : List Char) :
    escapeStep (code ++ rest) = .content [char] rest := by
  -- A code is read wherever it ends.
  rw [Toml.escapeStep, escape.read]

/-- Inside double quotes a plain character that is neither a quote nor a backslash stands for
itself. -/
theorem basicStep_plain (plain : isPlain char = true) (quote : char ≠ '"')
    (backslash : char ≠ '\\') : basicStep (char :: rest) = .content [char] rest := by
  rw [basicStep, if_pos plain]
  -- The two exceptions are tested first.
  · exact quote
  · exact backslash

/-- Each character inside double quotes on one line is read in one step. -/
theorem basicStep_basicChar (char : Char) (rest : List Char) :
    basicStep (basicChar char ++ rest) = .content [char] rest := by
  fun_cases basicChar char
  -- A quote and a line break have codes on one line.
  · rfl
  · rfl
  · rename_i quote _
    -- Every other character is written as on several lines.
    rcases escapeChar_cases char with ⟨plain, backslash, same⟩ | ⟨code, escape, same⟩
    · rw [same]
      exact basicStep_plain plain quote backslash
    · rw [same]
      exact escape.escapeStep rest

/-- A character is written as at least one. -/
theorem basicChar_ne_nil (char : Char) : basicChar char ≠ [] := by
  intro empty
  -- It is read back, which nothing would be.
  have read := basicStep_basicChar char []
  rw [empty] at read
  cases read

/-- Inside double quotes on one line every text is read back up to the closing quote. -/
theorem scans_basic (text rest : List Char) :
    Scans basicStep (text.flatMap basicChar ++ '"' :: rest) text rest := by
  induction text with
  | nil => exact .close rfl
  | cons char text ih =>
    rw [List.flatMap_cons, List.append_assoc]
    -- A character is one step, whatever it is written as.
    refine .next (basicStep_basicChar char _) ?_ ih
    have filled := List.length_pos_iff.mpr (basicChar_ne_nil char)
    simp only [List.length_append]
    omega

/-- Inside single quotes a text of plain characters is read back, if it holds no such quote. -/
theorem scans_literal (plain : ∀ char ∈ text, isPlain char = true) (free : '\'' ∉ text) :
    Scans literalStep (text ++ '\'' :: rest) text rest := by
  induction text with
  | nil => exact .close rfl
  | cons char text ih =>
    obtain ⟨quote, free⟩ := not_or.mp (mt List.mem_cons.mpr free)
    obtain ⟨plain, others⟩ := List.forall_mem_cons.mp plain
    -- Each character stands for itself.
    have goes : literalStep (char :: (text ++ '\'' :: rest)) =
        .content [char] (text ++ '\'' :: rest) := by
      simp [literalStep, Ne.symm quote, plain]
    exact .next goes (Nat.lt_succ_self _) (ih others free)

/-! ### Several lines -/

/-- A plain character is no line break. -/
theorem lineBreak?_plain (plain : isPlain char = true) : lineBreak? (char :: rest) = none := by
  rw [lineBreak?]
  -- Neither of the two characters that a line break begins with is plain.
  · rintro other same
    cases same
    cases plain
  · rintro other same
    cases same
    cases plain

section Lines

variable {quote : Char} {escape : List Char → Option Step}

/-- Up to two quotes in front of the closing ones belong to the text. -/
theorem linesStep_close {count : Nat} (few : count ≤ 2)
    (apart : ∀ first ∈ rest.head?, first ≠ quote) :
    linesStep quote escape (List.replicate (count + 3) quote ++ rest) =
      .close (List.replicate count quote) rest := by
  -- The run of quotes ends where something else follows, so all of them are counted.
  have run : (List.replicate (count + 3) quote ++ rest).takeWhile (· = quote) =
      List.replicate (count + 3) quote := by
    rw [List.takeWhile_append_of_pos fun char member => by simp [List.eq_of_mem_replicate member]]
    cases rest with
    | nil => simp
    | cons first behind => simp [apart first rfl]
  simp only [linesStep, run, List.length_replicate, Nat.le_add_left, if_pos, Nat.add_sub_cancel,
    Nat.min_eq_right few, List.take_replicate, List.drop_left' List.length_replicate]
  -- Of these quotes the last three close the text.
  rw [Nat.min_eq_left (Nat.le_add_right count 3)]

/-- Where no three quotes stand in front, a line break is read as such. -/
theorem linesStep_break (apart : quote ≠ '\n') :
    linesStep quote escape ('\n' :: rest) = .content ['\n'] rest := by
  -- The quotes are tested first, and a line break is none.
  simp [linesStep, lineBreak?, Ne.symm apart]

/-- Where no three quotes stand in front, a plain character that begins no code stands for itself.
-/
theorem linesStep_plain (few : ((char :: rest).takeWhile (· = quote)).length < 3)
    (plain : isPlain char = true) (unescaped : escape (char :: rest) = none) :
    linesStep quote escape (char :: rest) = .content [char] rest := by
  -- The tests in front of this one all fail.
  simp only [linesStep, if_neg (Nat.not_le_of_lt few), lineBreak?_plain plain, unescaped,
    if_pos plain]

end Lines

/-- Text with at most two quotes in a row is only quotes, or begins with no more than two of them,
whatever follows it. -/
theorem quotes_cases {quote : Char} (few : Text.longestRun quote text ≤ 2) (rest : List Char) :
    (∃ count ≤ 2, text = List.replicate count quote) ∨
      ((text ++ rest).takeWhile (· = quote)).length < 3 := by
  have front := Text.length_takeWhile_le_longestRun quote text
  -- Either the run goes through the whole text, or it ends inside it.
  rw [List.takeWhile_append]
  split
  · rename_i all
    left
    have same : text.takeWhile (· = quote) = text :=
      (List.takeWhile_prefix _).eq_of_length all
    refine ⟨text.length, by omega, List.eq_replicate_iff.mpr ⟨rfl, ?_⟩⟩
    have quotes := List.all_takeWhile (p := (· = quote)) (l := text)
    rw [same] at quotes
    simpa using quotes
  · right
    -- Inside the text no run is longer than the longest.
    omega

/-- The quotes that close a text on several lines, taken with quotes in front of them. -/
theorem replicate_append_quotes (quote : Char) (count : Nat) (rest : List Char) :
    List.replicate count quote ++ quote :: quote :: quote :: rest =
      List.replicate (count + 3) quote ++ rest := by
  -- The sum of quotes is split where the closing ones begin.
  rw [← List.replicate_append_replicate, List.append_assoc]
  rfl

/-- Inside triple single quotes a text is read back if it has no three such quotes in a row. -/
theorem scans_literalLines (plain : ∀ char ∈ text, isPlain char = true ∨ char = '\n')
    (few : Text.longestRun '\'' text ≤ 2) (apart : ∀ first ∈ rest.head?, first ≠ '\'') :
    Scans (linesStep '\'' fun _ => none) (text ++ '\'' :: '\'' :: '\'' :: rest) text rest := by
  -- On the text: it is closed from where only quotes are left of it.
  induction text with
  | nil => exact .close (linesStep_close (Nat.zero_le 2) apart)
  | cons char text ih =>
    rcases quotes_cases few ('\'' :: '\'' :: '\'' :: rest) with ⟨count, small, same⟩ | short
    · rw [same, replicate_append_quotes]
      exact .close (linesStep_close small apart)
    · obtain ⟨here, others⟩ := List.forall_mem_cons.mp plain
      have scans := ih others (Nat.le_trans (Text.longestRun_le_cons '\'' char text) few)
      refine .next ?_ (Nat.lt_succ_self _) scans
      rcases here with plain | rfl
      · exact linesStep_plain short plain rfl
      · exact linesStep_break (by decide)

/-- Quotes are written as they are while there are no more than two in a row, and no more than two
stand in front of what is written. -/
theorem basicLinesChars_cases {run : Nat} (known : run ≤ 2) (text rest : List Char) :
    (∃ count ≤ 2 - run, text = List.replicate count '"' ∧ basicLinesChars run text = text) ∨
      ((basicLinesChars run text ++ rest).takeWhile (· = '"')).length + run < 3 := by
  -- On how the text is written, with the quotes right before it counted.
  fun_induction basicLinesChars run text with
  | case1 run => exact .inl ⟨0, Nat.zero_le _, rfl, rfl⟩
  | case2 run text => exact .inr (by simp)
  | case3 run text other ih =>
    rcases ih (by omega) with ⟨count, small, same, whole⟩ | short
    -- A quote is written as it is, so the run becomes longer by one.
    · exact .inl ⟨count + 1, by omega, by rw [same, List.replicate_succ], by rw [whole]⟩
    · right
      rw [List.cons_append, List.takeWhile_cons_of_pos (by simp), List.length_cons]
      omega
  | case4 run text => exact .inr (Nat.lt_succ_of_le (by simpa using known))
  | case5 run char text quote =>
    -- What is written for any other character does not begin with a quote.
    right
    rcases escapeChar_cases char with ⟨-, -, same⟩ | ⟨code, -, same⟩
    · rw [same, List.append_assoc, List.singleton_append, List.takeWhile_cons_of_neg (by simpa)]
      simpa using Nat.lt_succ_of_le known
    · rw [same, List.append_assoc, List.cons_append, List.takeWhile_cons_of_neg (by simp)]
      simpa using Nat.lt_succ_of_le known

/-- A code behind a backslash is read in one step on any line. -/
theorem IsEscape.linesStep {code : List Char} (escape : IsEscape code char) (rest : List Char) :
    linesStep '"' linesEscape ('\\' :: (code ++ rest)) = .content [char] rest := by
  -- What follows the backslash is no blank, so it does not continue the line.
  have escaped : linesEscape ('\\' :: (code ++ rest)) = some (.content [char] rest) := by
    rw [linesEscape, escape.solid, escape.escapeStep]
  simp [Toml.linesStep, lineBreak?, escaped]

/-- Inside triple double quotes every text is read back, also behind up to two quotes of its own. -/
theorem scans_basicLines {run : Nat} (known : run ≤ 2) (text : List Char)
    (apart : ∀ first ∈ rest.head?, first ≠ '"') :
    Scans (linesStep '"' linesEscape) (basicLinesChars run text ++ '"' :: '"' :: '"' :: rest) text
      rest := by
  -- On the text and the quotes right before it: it is closed from where only quotes are left of it.
  fun_induction basicLinesChars run text with
  | case1 run => exact .close (linesStep_close (Nat.zero_le 2) apart)
  | case2 text ih =>
    have quote : IsEscape ['"'] '"' := ⟨fun _ => rfl, fun _ => rfl⟩
    exact .next (quote.linesStep _) (Nat.lt_trans (Nat.lt_succ_self _) (Nat.lt_succ_self _))
      (ih (by decide))
  | case3 run text other ih =>
    have front := basicLinesChars_cases known ('"' :: text) ('"' :: '"' :: '"' :: rest)
    rw [basicLinesChars, if_neg other] at front
    rcases front with ⟨count, small, same, whole⟩ | short
    · rw [whole, same, replicate_append_quotes]
      exact .close (linesStep_close (by omega) apart)
    · refine .next (linesStep_plain ?_ rfl rfl) (Nat.lt_succ_self _) (ih (by omega))
      exact Nat.lt_of_le_of_lt (Nat.le_add_right _ run) short
  | case4 run text ih =>
    exact .next (linesStep_break (by decide)) (Nat.lt_succ_self _) (ih (by decide))
  | case5 run char text quote _ ih =>
    rw [List.append_assoc]
    rcases escapeChar_cases char with ⟨plain, backslash, same⟩ | ⟨code, escape, same⟩
    · rw [same]
      have unescaped (behind : List Char) : linesEscape (char :: behind) = none := by
        rw [linesEscape]
        exact fun _ first => absurd (List.cons.inj first).1 backslash
      refine .next (linesStep_plain ?_ plain (unescaped _)) (Nat.lt_succ_self _) (ih (by decide))
      rw [List.takeWhile_cons_of_neg (by simpa)]
      decide
    · rw [same]
      refine .next (escape.linesStep _) ?_ (ih (by decide))
      simp only [List.length_cons, List.length_append]
      omega

/-! ### All spellings -/

/-- A quoted text without two more quotes behind the first one stays on its line. -/
theorem readText?_line {quote : Char} (apart : ∀ other, text ≠ quote :: quote :: other) :
    readText? (quote :: text) = readLineText? (quote :: text) := by
  -- Three quotes in front are the only other form.
  rw [readText?]
  · rintro other same
    cases same
    exact apart other rfl
  · rintro other same
    cases same
    exact apart other rfl

/-- The line break behind the opening quotes is dropped, and nothing of the text is. -/
theorem dropLineBreak_opening {inner : List Char}
    (unbroken : '\n' ∉ text → ∃ first behind, inner = first :: behind ∧ isPlain first = true) :
    dropLineBreak (opening text ++ inner) = inner := by
  rw [opening]
  by_cases broken : '\n' ∈ text
  -- A text on several lines has a line break written in front of it.
  · rw [if_pos (by simpa using broken)]
    rfl
  · obtain ⟨first, behind, rfl, plain⟩ := unbroken broken
    -- A text on one line has none, and does not begin with one either.
    rw [if_neg (by simpa using broken), List.nil_append, dropLineBreak, lineBreak?_plain plain]
    rfl

/-- A character that needs no code is plain, or a line break. -/
theorem isPlain_of_isControl (visible : isControl char = false) :
    isPlain char = true ∨ char = '\n' := by
  -- The tab is below the range of plain characters, but one of them.
  by_cases tab : char = '\t'
  · rw [tab]
    exact .inl rfl
  · by_cases newline : char = '\n'
    · exact .inr newline
    · left
      simp only [isControl, ne_eq, tab, newline, not_false_eq_true, decide_true, Bool.and_true,
        Bool.or_eq_false_iff, decide_eq_false_iff_not] at visible
      simp only [isPlain, Bool.or_eq_true, Bool.and_eq_true, decide_eq_true_eq]
      omega

/-- Single quotes on one line hold neither controls nor line breaks nor single quotes. -/
theorem Spelling.of_eq_literal (chosen : Spelling.of text = .literal) :
    (∀ char ∈ text, isPlain char = true) ∧ '\'' ∉ text := by
  -- This spelling is chosen under three conditions.
  have conditions : (text.any isControl = false ∧ Text.longestRun '\'' text = 0) ∧ '\n' ∉ text := by
    simp only [Spelling.of] at chosen
    grind
  obtain ⟨⟨visible, none⟩, unbroken⟩ := conditions
  rw [List.any_eq_false] at visible
  refine ⟨?_, Text.not_mem_of_longestRun none⟩
  intro char member
  -- A line break is the only other character without a code.
  rcases isPlain_of_isControl (Bool.not_eq_true _ ▸ visible char member) with plain | rfl
  · exact plain
  · exact absurd member unbroken

/-- Triple single quotes hold no controls and at most two single quotes in a row. -/
theorem Spelling.of_eq_literalLines (chosen : Spelling.of text = .literalLines) :
    (∀ char ∈ text, isPlain char = true ∨ char = '\n') ∧ Text.longestRun '\'' text ≤ 2 := by
  -- This spelling is chosen under two conditions.
  have conditions : text.any isControl = false ∧ Text.longestRun '\'' text ≤ 2 := by
    simp only [Spelling.of] at chosen
    grind
  obtain ⟨visible, few⟩ := conditions
  rw [List.any_eq_false] at visible
  refine ⟨?_, few⟩
  intro char member
  exact isPlain_of_isControl (Bool.not_eq_true _ ▸ visible char member)

/-- What is written in triple double quotes for a text without line breaks begins no line. -/
theorem exists_basicLinesChars (unbroken : '\n' ∉ text) (rest : List Char) : ∃ first behind,
    basicLinesChars 0 text ++ '"' :: rest = first :: behind ∧ isPlain first = true := by
  -- Every character but a line break is written with a plain one in front.
  fun_cases basicLinesChars 0 text with
  | case1 => exact ⟨_, _, rfl, rfl⟩
  | case2 => exact ⟨_, _, rfl, rfl⟩
  | case3 => exact ⟨_, _, rfl, rfl⟩
  | case4 => exact absurd List.mem_cons_self unbroken
  | case5 char =>
    rcases escapeChar_cases char with ⟨plain, -, same⟩ | ⟨code, -, same⟩
    · exact ⟨_, _, by rw [same]; rfl, plain⟩
    · exact ⟨_, _, by rw [same]; rfl, rfl⟩

/-- A quoted text begins with a quote of either kind. -/
theorem exists_quote (text : List Char) :
    ∃ mark inner, quote text = mark :: inner ∧ (mark = '"' ∨ mark = '\'') := by
  -- One case for each of the four spellings.
  rw [quote]
  split
  · exact ⟨_, _, rfl, .inl rfl⟩
  · exact ⟨_, _, rfl, .inr rfl⟩
  · exact ⟨_, _, rfl, .inl rfl⟩
  · exact ⟨_, _, rfl, .inr rfl⟩

section Quoted

/-- No quote of either kind stands in front. -/
def EndsQuotes (rest : List Char) : Prop := ∀ first ∈ rest.head?, first ≠ '"' ∧ first ≠ '\''

variable (ends : EndsQuotes rest)

include ends

/-- A text inside double quotes on one line is read back. -/
theorem readText?_basic (text : List Char) :
    readText? ('"' :: (text.flatMap basicChar ++ '"' :: rest)) =
      some (String.ofList text, rest) := by
  rw [readText?_line, readLineText?, scans_basic text rest [] _ (Nat.lt_succ_self _)]
  · rfl
  -- Were there two quotes more, the second one would be behind an empty text, and no quote is.
  · intro other same
    cases text with
    | nil => exact (ends '"' (by rw [(List.cons.inj same).2]; rfl)).1 rfl
    | cons char text =>
      -- The first character is read as itself, and not as the closing quote.
      have goes := basicStep_basicChar char (text.flatMap basicChar ++ '"' :: rest)
      rw [← List.append_assoc, ← List.flatMap_cons, same] at goes
      cases goes

/-- A text inside single quotes on one line is read back. -/
theorem readText?_literal (plain : ∀ char ∈ text, isPlain char = true) (free : '\'' ∉ text) :
    readText? ('\'' :: (text ++ '\'' :: rest)) = some (String.ofList text, rest) := by
  rw [readText?_line, readLineText?, scans_literal plain free [] _ (Nat.lt_succ_self _)]
  · rfl
  -- Were there two quotes more, the text would be empty or hold one.
  · intro other same
    cases text with
    | nil => exact (ends '\'' (by rw [(List.cons.inj same).2]; rfl)).2 rfl
    | cons char text =>
      rw [(List.cons.inj same).1] at free
      exact free List.mem_cons_self

/-- A text inside triple double quotes is read back. -/
theorem readText?_basicLines (text : List Char) :
    readText? (['"', '"', '"'] ++ opening text ++ basicLinesChars 0 text ++
      '"' :: '"' :: '"' :: rest) = some (String.ofList text, rest) := by
  -- What opens the text is dropped again, and then it is read from no quotes before it.
  have inner := dropLineBreak_opening fun unbroken : '\n' ∉ text =>
    exists_basicLinesChars unbroken ('"' :: '"' :: rest)
  have scans := scans_basicLines (Nat.zero_le 2) text fun first front => (ends first front).1
  simp only [List.append_assoc, List.cons_append, List.nil_append, readText?, inner]
  exact scans [] _ (Nat.lt_succ_self _)

/-- A text inside triple single quotes is read back. -/
theorem readText?_literalLines (plain : ∀ char ∈ text, isPlain char = true ∨ char = '\n')
    (few : Text.longestRun '\'' text ≤ 2) :
    readText? (['\'', '\'', '\''] ++ opening text ++ text ++ '\'' :: '\'' :: '\'' :: rest) =
      some (String.ofList text, rest) := by
  -- A text on one line begins with a plain character, or is closed at once.
  have front (unbroken : '\n' ∉ text) : ∃ first behind,
      text ++ '\'' :: '\'' :: '\'' :: rest = first :: behind ∧ isPlain first = true := by
    cases text with
    | nil => exact ⟨_, _, rfl, rfl⟩
    | cons char text =>
      rcases plain char List.mem_cons_self with visible | rfl
      · exact ⟨_, _, rfl, visible⟩
      · exact absurd List.mem_cons_self unbroken
  have scans := scans_literalLines plain few fun first front => (ends first front).2
  simp only [List.append_assoc, List.cons_append, List.nil_append, readText?,
    dropLineBreak_opening front]
  exact scans [] _ (Nat.lt_succ_self _)

/-- Every text is read back from its quotes, whatever they are, if no quote follows them. -/
theorem readText?_quote (text : List Char) :
    readText? (quote text ++ rest) = some (String.ofList text, rest) := by
  rw [quote]
  -- One case for each spelling, with what the choice says about the text.
  split
  · simpa using readText?_basic ends text
  · rename_i chosen
    obtain ⟨plain, free⟩ := Spelling.of_eq_literal chosen
    simpa using readText?_literal ends plain free
  · simpa using readText?_basicLines ends text
  · rename_i chosen
    obtain ⟨plain, few⟩ := Spelling.of_eq_literalLines chosen
    simpa using readText?_literalLines ends plain few

end Quoted

end Countersign.Toml
