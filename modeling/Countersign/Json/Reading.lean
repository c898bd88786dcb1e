import Countersign.Json.Value

/-! The tree of a text: characters are read from the left, and every breaking point is recorded. -/

namespace Countersign.Json

/-- Whether a character may stand between the parts of a text. -/
def isBlank (char : Char) : Bool :=
  -- These four and no others.
  char = ' ' || char = '\n' || char = '\t' || char = '\r'

/-- The text without the blanks in front. -/
def skipBlanks (text : List Char) : List Char := text.dropWhile isBlank

/-- What has been read of a quoted text. -/
structure TextScan where
  /-- The characters so far, last one first. -/
  reversed : List Char
  /-- The first half of a pair of escapes that is still without its second half. -/
  pending : Option Nat
  /-- Whether all escapes so far stood for characters. -/
  sound : Bool

namespace TextScan

/-- Nothing read yet. -/
def start : TextScan := ⟨[], none, true⟩

/-- One more character; a first half before it stays alone, which is unsound. -/
def push (scan : TextScan) (char : Char) : TextScan :=
  -- Only an escape can complete a pair.
  ⟨char :: scan.reversed, none, scan.sound && scan.pending.isNone⟩

/-- One more code unit given by its number. -/
def pushUnit (scan : TextScan) (unit : Nat) : TextScan :=
  -- Numbers from 0xD800 are first halves, numbers from 0xDC00 are second halves.
  match scan.pending with
  | some high =>
    if 0xDC00 ≤ unit ∧ unit ≤ 0xDFFF then
      let code := 0x10000 + (high - 0xD800) * 0x400 + (unit - 0xDC00)
      ⟨Char.ofNat code :: scan.reversed, none, scan.sound⟩
    else ⟨scan.reversed, none, false⟩
  | none =>
    if 0xD800 ≤ unit ∧ unit ≤ 0xDBFF then ⟨scan.reversed, some unit, scan.sound⟩
    else if 0xDC00 ≤ unit ∧ unit ≤ 0xDFFF then ⟨scan.reversed, none, false⟩
    else ⟨Char.ofNat unit :: scan.reversed, none, scan.sound⟩

/-- The text at its closing quote. -/
def close (scan : TextScan) : Value :=
  -- A first half at the end stays alone.
  .text (if scan.sound && scan.pending.isNone then some (String.ofList scan.reversed.reverse)
    else none)

/-- The flaw of a text that the input ends in. -/
def cutOff (scan : TextScan) : Value :=
  -- An unsound escape came before the end.
  .flawed true (if scan.sound then .truncated else .malformed) .truncated

end TextScan

/-- The character that a one-letter escape stands for. -/
def shortEscape? : Char → Option Char
  | '"' => some '"'
  | '\\' => some '\\'
  | '/' => some '/'
  | 'b' => some '\x08'
  | 'f' => some '\x0c'
  | 'n' => some '\n'
  | 'r' => some '\r'
  | 't' => some '\t'
  | _ => none

/-- The number of four hexadecimal digits. -/
def unitValue? (a b c d : Char) : Option Nat := do
  -- All four must be digits.
  let digits ← [a, b, c, d].mapM Text.hexValue?
  return Text.positional 16 digits

/-- The number of octets that a text takes in UTF-8. -/
def octetCount (text : List Char) : Nat :=
  -- Each character takes one octet to four.
  text.foldl (fun count char => count + char.utf8Size) 0

/-- A text whose opening quote has been read, and what follows its closing quote. -/
def readText (scan : TextScan) : List Char → Value × List Char
  | [] => (scan.cutOff, [])
  | '"' :: rest => (scan.close, rest)
  | ['\\'] => (scan.cutOff, [])
  | '\\' :: 'u' :: a :: b :: c :: d :: rest =>
    match unitValue? a b c d with
    | some unit => readText (scan.pushUnit unit) rest
    | none => (.flawed true .malformed .malformed, [])
  | '\\' :: 'u' :: short =>
    -- Four octets are asked for before any of them is looked at.
    (if octetCount short < 4 then scan.cutOff else .flawed true .malformed .malformed, [])
  | '\\' :: letter :: rest =>
    match shortEscape? letter with
    | some char => readText (scan.push char) rest
    | none => (.flawed true .malformed .malformed, [])
  | char :: rest =>
    -- Control characters must be escaped.
    if char.toNat < 0x20 then (.flawed true .malformed .malformed, [])
    else readText (scan.push char) rest

/-- A number that breaks off where digits should stand: at the end of the input it is cut off. -/
def missingDigits (rest : List Char) : Value × List Char :=
  -- A number that is passed over is malformed in either case.
  (.flawed false (if rest.isEmpty then .truncated else .malformed) .malformed, [])

/-- The exponent of a number, if one begins here, and what follows. -/
def readExponent (negative : Bool) (whole : List Char) (fraction : Option (List Char))
    (text : List Char) : Value × List Char :=
  -- A sign may stand before the digits, at least one of which must follow.
  match text with
  | [] => (.number ⟨negative, whole, fraction, none⟩, text)
  | mark :: behind =>
    if mark = 'e' || mark = 'E' then
      let (sign, behind) :=
        match behind with
        | '+' :: rest => (false, rest)
        | '-' :: rest => (true, rest)
        | _ => (false, behind)
      let digits := behind.takeWhile Text.isDigit
      if digits.isEmpty then missingDigits behind
      else (.number ⟨negative, whole, fraction, some (sign, digits)⟩,
        behind.dropWhile Text.isDigit)
    else (.number ⟨negative, whole, fraction, none⟩, text)

/-- The part of a number behind its first digits, and what follows. -/
def readFraction (negative : Bool) (whole : List Char) (text : List Char) : Value × List Char :=
  -- A point must be followed by a digit.
  match text with
  | '.' :: behind =>
    let digits := behind.takeWhile Text.isDigit
    if digits.isEmpty then missingDigits behind
    else readExponent negative whole (some digits) (behind.dropWhile Text.isDigit)
  | _ => readExponent negative whole none text

/-- A number without its sign, and what follows. -/
def readDigits (negative : Bool) (text : List Char) : Value × List Char :=
  -- A leading zero stands alone.
  match text with
  | '0' :: rest =>
    if (rest.head?.map Text.isDigit).getD false then (.flawed false .malformed .malformed, [])
    else readFraction negative ['0'] rest
  | _ =>
    let digits := text.takeWhile Text.isDigit
    if digits.isEmpty then missingDigits text
    else readFraction negative digits (text.dropWhile Text.isDigit)

/-- One of the three words, given by its letters behind the first, and what follows. -/
def readWord (value : Value) : List Char → List Char → Value × List Char
  | [], rest => (value, rest)
  | _ :: _, [] => (.flawed false .truncated .truncated, [])
  | letter :: letters, char :: rest =>
    -- The first letter that differs decides.
    if letter = char then readWord value letters rest else (.flawed false .malformed .malformed, [])

/-- The flaw of whatever stands in place of a mark. -/
def flawAt (text : List Char) : Flaw := if text.isEmpty then .truncated else .malformed

mutual

/-- A value at the front of a text, and what follows it; every step spends some of the budget. -/
def readValue : Nat → List Char → Value × List Char
  | 0, _ => (.absent .malformed, [])
  | budget + 1, text =>
    -- The first character decides what kind of value it is.
    match skipBlanks text with
    | [] => (.absent .truncated, [])
    | '"' :: rest => readText .start rest
    | 'n' :: rest => readWord .null ['u', 'l', 'l'] rest
    | 't' :: rest => readWord (.bool true) ['r', 'u', 'e'] rest
    | 'f' :: rest => readWord (.bool false) ['a', 'l', 's', 'e'] rest
    | '-' :: rest => readDigits true rest
    | '[' :: rest =>
      match skipBlanks rest with
      | [] => (.array [] (some .truncated), [])
      | ']' :: behind => (.array [] none, behind)
      | inner =>
        let (elements, ending, behind) := readElements budget inner
        (.array elements ending, behind)
    | '\x7b' :: rest =>
      match skipBlanks rest with
      | [] => (.object [] (some .truncated), [])
      | '\x7d' :: behind => (.object [] none, behind)
      | inner =>
        let (members, ending, behind) := readMembers budget inner
        (.object members ending, behind)
    | char :: rest =>
      if Text.isDigit char then readDigits false (char :: rest) else (.absent .malformed, [])

/-- The elements from here to the closing bracket, its flaw, and what follows. -/
def readElements : Nat → List Char → List Value × Option Flaw × List Char
  | 0, _ => ([], some .malformed, [])
  | budget + 1, text =>
    -- Behind a comma another element must stand.
    let (element, behind) := readValue budget text
    match skipBlanks behind with
    | ']' :: rest => ([element], none, rest)
    | ',' :: rest =>
      let (elements, ending, left) := readElements budget rest
      (element :: elements, ending, left)
    | other => ([element], some (flawAt other), [])

/-- The members from here to the closing brace, its flaw, and what follows. -/
def readMembers : Nat → List Char → List (Value × Value) × Option Flaw × List Char
  | 0, _ => ([], some .malformed, [])
  | budget + 1, text =>
    -- Behind a comma another member must stand.
    let (name, behindName) := readValue budget text
    match skipBlanks behindName with
    | ':' :: rest =>
      let (value, behind) := readValue budget rest
      match skipBlanks behind with
      | '\x7d' :: left => ([(name, value)], none, left)
      | ',' :: left =>
        let (members, ending, left) := readMembers budget left
        ((name, value) :: members, ending, left)
      | other => ([(name, value)], some (flawAt other), [])
    | other => ([(name, .absent (flawAt other))], some (flawAt other), [])

end

/-- The value of a whole text, and whether anything but blanks follows it. -/
def readDocument (text : String) : Value × Bool :=
  -- No step reads less than one character, so the budget lasts.
  let chars := text.toList
  let (value, behind) := readValue (2 * chars.length + 2) chars
  (value, !(skipBlanks behind).isEmpty)

end Countersign.Json
