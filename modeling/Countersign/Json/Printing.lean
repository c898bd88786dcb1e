import Countersign.Json.Value

/-! The text of a JSON value, compact or indented. -/

namespace Countersign.Json

/-- A character as it stands in a quoted text. -/
def escaped (char : Char) : List Char :=
  -- Five short escapes, six digits for other controls, everything else as it is.
  match char with
  | '"' => ['\\', '"']
  | '\\' => ['\\', '\\']
  | '\x08' => ['\\', 'b']
  | '\x0c' => ['\\', 'f']
  | '\n' => ['\\', 'n']
  | '\r' => ['\\', 'r']
  | '\t' => ['\\', 't']
  | _ =>
    if char.toNat < 0x20 then
      ['\\', 'u', '0', '0', Nat.digitChar (char.toNat / 16), Nat.digitChar (char.toNat % 16)]
    else [char]

/-- A text in quotes. -/
def quote (text : String) : List Char := '"' :: text.toList.flatMap escaped ++ ['"']

mutual

/-- The shortest text of a value; one that breaks off has no text of its own. -/
def Value.compact : Value → List Char
  | .null => "null".toList
  | .bool true => "true".toList
  | .bool false => "false".toList
  | .number decimal => decimal.chars
  | .text value => quote (value.getD "")
  | .flawed _ _ _ => []
  | .absent _ => []
  | .array elements _ => '[' :: compactElements elements ++ [']']
  | .object members _ => '\x7b' :: compactMembers members ++ ['\x7d']

/-- Elements with commas between them. -/
def compactElements : List Value → List Char
  | [] => []
  | [value] => value.compact
  | value :: rest => value.compact ++ ',' :: compactElements rest

/-- Members with commas between them. -/
def compactMembers : List (Value × Value) → List Char
  | [] => []
  | [(name, value)] => name.compact ++ ':' :: value.compact
  | (name, value) :: rest => name.compact ++ ':' :: value.compact ++ ',' :: compactMembers rest

end

/-- A new line with two blanks for each level. -/
def newLine (level : Nat) : List Char := '\n' :: List.replicate (2 * level) ' '

mutual

/-- The text of a value with each element and member on a line of its own. -/
def Value.indented (level : Nat) : Value → List Char
  | .array (value :: rest) _ =>
    '[' :: indentedElements (level + 1) (value :: rest) ++ newLine level ++ [']']
  | .object (member :: rest) _ =>
    '\x7b' :: indentedMembers (level + 1) (member :: rest) ++ newLine level ++ ['\x7d']
  | other => other.compact

/-- Elements on lines of their own. -/
def indentedElements (level : Nat) : List Value → List Char
  | [] => []
  | [value] => newLine level ++ value.indented level
  | value :: rest => newLine level ++ value.indented level ++ ',' :: indentedElements level rest

/-- Members on lines of their own. -/
def indentedMembers (level : Nat) : List (Value × Value) → List Char
  | [] => []
  | [(name, value)] => newLine level ++ name.compact ++ [':', ' '] ++ value.indented level
  | (name, value) :: rest =>
    newLine level ++ name.compact ++ [':', ' '] ++ value.indented level
      ++ ',' :: indentedMembers level rest

end

/-- The shortest text of a value. -/
def Value.render (value : Value) : String := String.ofList value.compact

/-- The indented text of a value. -/
def Value.renderIndented (value : Value) : String := String.ofList (value.indented 0)

end Countersign.Json
