import Countersign.Text.Parts

/-! Filters of log lines: which texts are filters, and which of two filters is used. -/

namespace Countersign.Log

/-- The names of the levels, in lowercase. -/
def levelNames : List String := ["off", "error", "warn", "info", "debug", "trace"]

/-- Whether a text is a level: a name in any letter case, or its number. -/
def isLevel (text : List Char) : Bool :=
  -- Six levels are numbered from zero.
  levelNames.contains (String.ofList (text.map Char.toLower))
    || ["0", "1", "2", "3", "4", "5"].contains (String.ofList text)

/-- Whether a text is the name of a target. -/
def isTarget (text : List Char) : Bool :=
  -- ASCII letters, digits, and three marks.
  !text.isEmpty && text.all fun char =>
    char.isAlphanum || char = '_' || char = ':' || char = '-'

/-- Whether a text is a directive: a level, a target, or a target with a level. -/
def isDirective (text : List Char) : Bool :=
  -- A target with an empty level lets everything through.
  match Text.parts '=' text with
  | [single] => isLevel single || isTarget single
  | [target, level] => isTarget target && (level.isEmpty || isLevel level)
  | _ => false

/-- Whether a text is a filter: directives with commas between them, of which some may be empty. -/
def isFilter (text : String) : Bool :=
  -- Empty directives say nothing.
  (Text.parts ',' text.toList).all fun part => part.isEmpty || isDirective part

/-- Why logging cannot be set up. -/
inductive SetupError where
  /-- The filter that would be used is none. -/
  | filter
  /-- Logging has been set up before. -/
  | alreadyInitialized
  deriving DecidableEq, Repr

/-- The error of setting up logging a second time, where a filter of the environment goes first. -/
def setUpAgain (environment : Option String) (level : String) : SetupError :=
  -- The filter is judged before the earlier setup is noticed.
  if environment.any isFilter || isFilter level then .alreadyInitialized else .filter

end Countersign.Log
