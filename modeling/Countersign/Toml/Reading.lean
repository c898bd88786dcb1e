import Countersign.Toml.Quoted
import Countersign.Toml.Scalar

/-! The tree of a TOML document. -/

namespace Countersign.Toml

/-- What the depth of brackets and braces and the number of a key's parts must stay below. -/
def depthLimit : Nat := 80

/-- Whether a character may stand in a key without quotes. -/
def isBareKey (char : Char) : Bool := char.isAlphanum || char = '_' || char = '-'

/-- One part of a key, and what follows it. -/
def readKeyPart? (text : List Char) : Option (String × List Char) :=
  -- A part is quoted, or is a run of plain characters.
  match text with
  | '"' :: _ => readLineText? text
  | '\'' :: _ => readLineText? text
  | _ =>
    let name := text.takeWhile isBareKey
    if name.isEmpty then none else some (String.ofList name, text.dropWhile isBareKey)

/-- A key of parts with dots between them, and what follows it and its blanks. -/
def readKeyParts? : Nat → List Char → Option (List String × List Char)
  | 0, _ => none
  | budget + 1, text => do
    -- Blanks may stand around every part.
    let (part, behind) ← readKeyPart? (skipBlanks text)
    match skipBlanks behind with
    | '.' :: rest =>
      let (parts, left) ← readKeyParts? budget rest
      return (part :: parts, left)
    | other => return ([part], other)

/-- A key that is not too long, and what follows it. -/
def readKey? (text : List Char) : Option (List String × List Char) :=
  -- The limit itself is one part too many.
  readKeyParts? (depthLimit - 1) text

/-- What follows the comment in front, if there is one. -/
def skipComment (text : List Char) : List Char :=
  -- A comment goes on to the first character that may not stand in a line.
  match text with
  | '#' :: rest => rest.dropWhile isPlain
  | _ => text

/-- What follows the end of this line, which may hold blanks and a comment. -/
def endLine? (text : List Char) : Option (List Char) :=
  -- The end of the document ends the line too.
  match skipComment (skipBlanks text) with
  | [] => some []
  | other => lineBreak? other

/-- The text without blanks, comments and line breaks in front. -/
def skipSpace : Nat → List Char → List Char
  | 0, text => text
  | budget + 1, text =>
    -- A comment is skipped up to its line break.
    match skipLines text with
    | '#' :: rest => skipSpace budget (rest.dropWhile isPlain)
    | other => other

/-- Whether a character may stand in a value without quotes or brackets. -/
def isScalarChar (char : Char) : Bool :=
  -- Letters, digits and the marks of numbers and times.
  char.isAlphanum || char = '+' || char = '-' || char = '_' || char = '.' || char = ':'

/-- A value without quotes or brackets, and what follows it. -/
def readScalar? (text : List Char) : Option (Value × List Char) :=
  -- A blank may stand between a date and a time.
  let first := text.takeWhile isScalarChar
  let rest := text.dropWhile isScalarChar
  let joined :=
    match rest with
    | ' ' :: more =>
      let second := more.takeWhile isScalarChar
      if isDate first && isTimeWithOffset second then
        some (Value.moment, more.dropWhile isScalarChar)
      else none
    | _ => none
  joined.orElse fun _ => (scalar? first).map fun value => (value, rest)

mutual

/-- A value in front, at a given depth, and what follows it. -/
def readValue? : Nat → Nat → List Char → Option (Value × List Char)
  | 0, _, _ => none
  | budget + 1, depth, text =>
    -- The first character decides what kind of value it is.
    match text with
    | '"' :: _ => (readText? text).map fun (content, rest) => (.text content, rest)
    | '\'' :: _ => (readText? text).map fun (content, rest) => (.text content, rest)
    | '[' :: rest =>
      if depth + 1 < depthLimit then
        (readElements? budget (depth + 1) rest).map fun (elements, left) => (.array elements, left)
      else none
    | '\x7b' :: rest =>
      if depth + 1 < depthLimit then
        match skipBlanks rest with
        | '\x7d' :: left => some (.inline [], left)
        | _ => (readPairs? budget (depth + 1) [] rest).map fun (entries, left) =>
          (.inline entries, left)
      else none
    | _ => readScalar? text

/-- The elements from here to the closing bracket, and what follows. -/
def readElements? : Nat → Nat → List Char → Option (List Value × List Char)
  | 0, _, _ => none
  | budget + 1, depth, text =>
    -- A comma may stand behind the last element.
    match skipSpace (text.length + 1) text with
    | ']' :: left => some ([], left)
    | other => do
      let (element, behind) ← readValue? budget depth other
      match skipSpace (behind.length + 1) behind with
      | ',' :: rest =>
        let (elements, left) ← readElements? budget depth rest
        return (element :: elements, left)
      | ']' :: left => return ([element], left)
      | _ => none

/-- The entries from here to the closing brace, added to earlier ones, and what follows. -/
def readPairs? : Nat → Nat → Entries → List Char → Option (Entries × List Char)
  | 0, _, _, _ => none
  | budget + 1, depth, entries, text => do
    -- No comma may stand behind the last entry.
    let (key, behind) ← readKey? text
    match behind with
    | '=' :: rest =>
      let (value, left) ← readValue? budget depth (skipBlanks rest)
      let entries ← entries.insert key value .header
      match skipBlanks left with
      | ',' :: more => readPairs? budget depth entries more
      | '\x7d' :: after => return (entries, after)
      | _ => none
    | _ => none

end

/-- What has been read of a document. -/
structure Document where
  /-- The entries so far. -/
  entries : Entries
  /-- The path of the last header. -/
  header : List String

namespace Document

/-- The document with one more line read, and what follows the line. -/
def readLine? (document : Document) (text : List Char) : Option (Document × List Char) :=
  -- A line holds a header, a key with its value, or nothing.
  match text with
  | '[' :: '[' :: rest => do
    let (path, behind) ← readKey? rest
    match behind with
    | ']' :: ']' :: left =>
      let entries ← document.entries.openRow path
      return (⟨entries, path⟩, ← endLine? left)
    | _ => none
  | '[' :: rest => do
    let (path, behind) ← readKey? rest
    match behind with
    | ']' :: left =>
      let entries ← document.entries.openTable path
      return (⟨entries, path⟩, ← endLine? left)
    | _ => none
  | _ =>
    match endLine? text with
    | some rest => some (document, rest)
    | none => do
      let (path, behind) ← readKey? text
      match behind with
      | '=' :: rest =>
        let (value, left) ← readValue? (2 * rest.length + 2) 0 (skipBlanks rest)
        let entries ← document.entries.insertUnder document.header path value
        return ({ document with entries }, ← endLine? left)
      | _ => none

/-- The document with all remaining lines read; every line spends some of the budget. -/
def readLines? : Nat → Document → List Char → Option Document
  | 0, _, _ => none
  | budget + 1, document, text =>
    -- The document ends with its text.
    match skipBlanks text with
    | [] => some document
    | line => do
      let (document, rest) ← document.readLine? line
      readLines? budget document rest

end Document

/-- The entries of a document, if its text is one. -/
def parse? (text : String) : Option Entries :=
  -- A byte order mark in front is skipped.
  let chars :=
    match text.toList with
    | '\uFEFF' :: rest => rest
    | other => other
  (Document.readLines? (chars.length + 1) ⟨[], []⟩ chars).map Document.entries

end Countersign.Toml
