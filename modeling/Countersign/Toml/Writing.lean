import Countersign.Text.Parts

/-! Quoted texts of TOML in the plainest of four spellings that can hold them. -/

namespace Countersign.Toml

/-- The four spellings of a quoted text. -/
inductive Spelling where
  /-- Double quotes on one line. -/
  | basic
  /-- Single quotes on one line. -/
  | literal
  /-- Triple double quotes. -/
  | basicLines
  /-- Triple single quotes. -/
  | literalLines
  deriving DecidableEq, Repr

/-- Whether a character must be escaped in every spelling. -/
def isControl (char : Char) : Bool :=
  -- Tabs and line breaks have spellings of their own.
  (char.toNat ≤ 0x1F && char ≠ '\t' && char ≠ '\n') || char.toNat = 0x7F

/-- The spelling of a text: the first of the four that needs no escapes, else one with escapes. -/
def Spelling.of (text : List Char) : Spelling :=
  -- Quotes inside decide between the quotes outside.
  let controls := text.any isControl
  let backslashes := text.contains '\\'
  let breaks := text.contains '\n'
  let doubles := Text.longestRun '"' text
  let singles := Text.longestRun '\'' text
  if !controls && !backslashes && doubles = 0 && !breaks then .basic
  else if !controls && singles = 0 && !breaks then .literal
  else if !controls && !backslashes && doubles ≤ 2 then .basicLines
  else if !controls && singles ≤ 2 then .literalLines
  else if breaks then .basicLines
  else .basic

/-- A hexadecimal digit with capital letters. -/
def capitalDigit (value : Nat) : Char := (Nat.digitChar value).toUpper

/-- A character other than quotes and line breaks inside double quotes. -/
def escapeChar (char : Char) : List Char :=
  -- Five short escapes, code points for other controls.
  match char with
  | '\x08' => ['\\', 'b']
  | '\t' => ['\\', 't']
  | '\x0c' => ['\\', 'f']
  | '\r' => ['\\', 'r']
  | '\\' => ['\\', '\\']
  | _ =>
    if char.toNat ≤ 0x1F ∨ char.toNat = 0x7F then
      ['\\', 'u', '0', '0', capitalDigit (char.toNat / 16), capitalDigit (char.toNat % 16)]
    else [char]

/-- A character inside double quotes on one line. -/
def basicChar (char : Char) : List Char :=
  -- Quotes and line breaks are escaped.
  match char with
  | '"' => ['\\', '"']
  | '\n' => ['\\', 'n']
  | _ => escapeChar char

/-- Characters inside triple double quotes, where `run` quotes stand right before. -/
def basicLinesChars (run : Nat) : List Char → List Char
  | [] => []
  | '"' :: rest =>
    -- Every third quote in a row is escaped.
    if run = 2 then '\\' :: '"' :: basicLinesChars 0 rest
    else '"' :: basicLinesChars (run + 1) rest
  | '\n' :: rest => '\n' :: basicLinesChars 0 rest
  | char :: rest => escapeChar char ++ basicLinesChars 0 rest

/-- The line break behind opening triple quotes, which a text with line breaks gets. -/
def opening (text : List Char) : List Char := if text.contains '\n' then ['\n'] else []

/-- A text in quotes. -/
def quote (text : List Char) : List Char :=
  -- The spelling decides about quotes and escapes.
  match Spelling.of text with
  | .basic => '"' :: text.flatMap basicChar ++ ['"']
  | .literal => '\'' :: text ++ ['\'']
  | .basicLines =>
    ['"', '"', '"'] ++ opening text ++ basicLinesChars 0 text ++ ['"', '"', '"']
  | .literalLines => ['\'', '\'', '\''] ++ opening text ++ text ++ ['\'', '\'', '\'']

end Countersign.Toml
