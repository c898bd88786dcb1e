import Countersign.Text.Unprinted

/-! Characters and texts in quotes, with escapes for all that would not show. -/

namespace Countersign.Text

/-- The lowercase hexadecimal digits of a number, without leading zeros. -/
def hexNumber (value : Nat) : List Char := Nat.toDigits 16 value

/-- A character as it stands between quotes of the given kind. -/
def quotedForm (quote char : Char) : List Char :=
  -- Named escapes come first, then escapes by code point.
  if char = '\x00' then ['\\', '0']
  else if char = '\t' then ['\\', 't']
  else if char = '\r' then ['\\', 'r']
  else if char = '\n' then ['\\', 'n']
  else if char = '\\' || char = quote then ['\\', char]
  else if isUnprinted char then ['\\', 'u', '\x7b'] ++ hexNumber char.toNat ++ ['\x7d']
  else [char]

/-- A character in single quotes. -/
def quotedChar (char : Char) : String :=
  -- Only the single quote needs an escape among the quotes.
  String.ofList ('\'' :: quotedForm '\'' char ++ ['\''])

/-- A text in double quotes. -/
def quoted (text : String) : String :=
  -- Only the double quote needs an escape among the quotes.
  String.ofList ('"' :: text.toList.flatMap (quotedForm '"') ++ ['"'])

end Countersign.Text
