import Countersign.Json.Form

/-! The two formats of log lines. -/

namespace Countersign.Log

/-- How log lines are written. -/
inductive Format where
  /-- For people. -/
  | human
  /-- For programs. -/
  | json
  deriving DecidableEq, Repr

namespace Format

/-- The name of a format. -/
def name : Format → String
  | .human => "human"
  | .json => "json"

/-- All formats under their names. -/
def names : List (String × Format) := [("human", .human), ("json", .json)]

/-- A name that stands for no format. -/
structure Unknown where
  /-- The name in lowercase. -/
  name : String
  deriving DecidableEq, Repr

/-- The wording of an unknown format. -/
def Unknown.message (unknown : Unknown) : String := "unknown log format: " ++ unknown.name

/-- The format that a name in any ASCII letter case stands for. -/
def parse (text : String) : Except Unknown Format :=
  -- Letters beyond ASCII keep their case.
  let lower := String.ofList (text.toList.map Char.toLower)
  match names.lookup lower with
  | some format => .ok format
  | none => .error ⟨lower⟩

end Format

/-- A format, by its name. -/
def formatForm : Json.Form Format := .choice Format.names Format.name

end Countersign.Log
