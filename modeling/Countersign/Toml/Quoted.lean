import Countersign.Text.Digits

/-! Quoted texts of TOML: four kinds, by quote and by whether they may span lines. -/

namespace Countersign.Toml

/-- Whether a character may stand in a line as it is. -/
def isPlain (char : Char) : Bool :=
  -- The tab is the only control character that may.
  char = '\t' || (0x20 ≤ char.toNat && char.toNat ≠ 0x7F)

/-- Whether a character is blank within a line. -/
def isBlank (char : Char) : Bool := char = ' ' || char = '\t'

/-- The text without the blanks in front. -/
def skipBlanks (text : List Char) : List Char := text.dropWhile isBlank

/-- What follows the line break in front, if there is one. -/
def lineBreak? : List Char → Option (List Char)
  | '\n' :: rest => some rest
  | '\r' :: '\n' :: rest => some rest
  | _ => none

/-- The text without the blanks and line breaks in front. -/
def skipLines : List Char → List Char
  | '\r' :: '\n' :: rest => skipLines rest
  | char :: rest => if isBlank char || char = '\n' then skipLines rest else char :: rest
  | [] => []

/-- The character whose code point has exactly so many digits in front, and what follows. -/
def codePoint? (count : Nat) (text : List Char) : Option (Char × List Char) := do
  -- Numbers that are no code point of a character are refused.
  let digits ← (text.take count).mapM Text.hexValue?
  let code := Text.positional 16 digits
  if digits.length = count ∧ code.isValidChar then
    return (Char.ofNat code, text.drop count)
  else none

/-- The character of an escape behind its backslash, and what follows. -/
def readEscape? : List Char → Option (Char × List Char)
  | 'b' :: rest => some ('\x08', rest)
  | 't' :: rest => some ('\t', rest)
  | 'n' :: rest => some ('\n', rest)
  | 'f' :: rest => some ('\x0c', rest)
  | 'r' :: rest => some ('\r', rest)
  | '"' :: rest => some ('"', rest)
  | '\\' :: rest => some ('\\', rest)
  | 'u' :: rest => codePoint? 4 rest
  | 'U' :: rest => codePoint? 8 rest
  | _ => none

/-- One step inside a quoted text. -/
inductive Step where
  /-- Some characters, after which the text goes on. -/
  | content (chars : List Char) (rest : List Char)
  /-- The last characters and what follows the closing quotes. -/
  | close (chars : List Char) (rest : List Char)
  /-- Something that cannot stand here. -/
  | stuck

/-- An escape as a step. -/
def escapeStep (text : List Char) : Step :=
  -- What follows the backslash decides.
  match readEscape? text with
  | some (char, rest) => .content [char] rest
  | none => .stuck

/-- A step inside double quotes on one line. -/
def basicStep : List Char → Step
  | '"' :: rest => .close [] rest
  | '\\' :: rest => escapeStep rest
  | char :: rest => if isPlain char then .content [char] rest else .stuck
  | [] => .stuck

/-- A step inside single quotes on one line. -/
def literalStep : List Char → Step
  | '\'' :: rest => .close [] rest
  | char :: rest => if isPlain char then .content [char] rest else .stuck
  | [] => .stuck

/-- A step inside triple quotes of the given kind, where escapes are told by a function. -/
def linesStep (quote : Char) (escape : List Char → Option Step) (text : List Char) : Step :=
  -- Up to two quotes may stand right before the closing ones.
  let quotes := text.takeWhile (· = quote)
  if 3 ≤ quotes.length then
    let inner := min 2 (quotes.length - 3)
    .close (quotes.take inner) (text.drop (inner + 3))
  else
    match lineBreak? text with
    | some rest => .content ['\n'] rest
    | none =>
      match escape text with
      | some step => step
      | none =>
        match text with
        | char :: rest => if isPlain char then .content [char] rest else .stuck
        | [] => .stuck

/-- An escape inside triple double quotes, which may hide a line break with what surrounds it. -/
def linesEscape : List Char → Option Step
  | '\\' :: rest =>
    match lineBreak? (skipBlanks rest) with
    | some behind => some (.content [] (skipLines behind))
    | none => some (escapeStep rest)
  | _ => none

/-- The characters of a quoted text and what follows it; every step spends some of the budget. -/
def readSteps (step : List Char → Step) : Nat → List Char → List Char → Option (String × List Char)
  | 0, _, _ => none
  | budget + 1, reversed, text =>
    -- Characters are gathered last one first.
    match step text with
    | .content chars rest => readSteps step budget (chars.reverse ++ reversed) rest
    | .close chars rest => some (String.ofList (chars.reverse ++ reversed).reverse, rest)
    | .stuck => none

/-- The text without the line break in front, if there is one. -/
def dropLineBreak (text : List Char) : List Char := (lineBreak? text).getD text

/-- A quoted text that stays on its line, and what follows it. -/
def readLineText? : List Char → Option (String × List Char)
  | '"' :: rest => readSteps basicStep (rest.length + 1) [] rest
  | '\'' :: rest => readSteps literalStep (rest.length + 1) [] rest
  | _ => none

/-- A quoted text of any kind, and what follows it. -/
def readText? : List Char → Option (String × List Char)
  | '"' :: '"' :: '"' :: rest =>
    -- A line break right behind the opening quotes does not count.
    let inner := dropLineBreak rest
    readSteps (linesStep '"' linesEscape) (inner.length + 1) [] inner
  | '\'' :: '\'' :: '\'' :: rest =>
    let inner := dropLineBreak rest
    readSteps (linesStep '\'' fun _ => none) (inner.length + 1) [] inner
  | text => readLineText? text

end Countersign.Toml
