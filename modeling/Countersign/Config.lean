import Countersign.Log.Format
import Countersign.Path
import Countersign.Toml.Reading
import Countersign.Toml.Writing

/-! The configuration of a wallet, and its TOML and JSON forms. -/

namespace Countersign

/-- How a hardware device is used. -/
structure HardwareConfig where
  /-- How long a single call may take, in milliseconds. -/
  timeout : UInt64
  /-- The path to the key that signs. -/
  path : Path
  deriving DecidableEq

/-- The configuration of a wallet. -/
structure Config where
  /-- The chain that signatures are made for. -/
  chain : String
  /-- How log lines are written. -/
  logFormat : Log.Format
  /-- The filter of log lines. -/
  logLevel : String
  /-- How a hardware device is used. -/
  hardware : HardwareConfig
  deriving DecidableEq

/-- The settings of a device that nothing is said about. -/
def HardwareConfig.default : HardwareConfig := ⟨60000, Path.default⟩

namespace Config

/-- The settings of a wallet that nothing is said about. -/
def default : Config := ⟨"privatenet", .human, "info", HardwareConfig.default⟩

/-- A key with its value on a line of its own. -/
def line (key : String) (value : List Char) : List Char :=
  -- Blanks stand around the sign.
  key.toList ++ [' ', '=', ' '] ++ value ++ ['\n']

/-- The written form of a configuration, unless the timeout exceeds the integers of TOML. -/
def write? (config : Config) : Option String :=
  -- Three keys, then the table of the device.
  if Nat.pow 2 63 ≤ config.hardware.timeout.toNat then none
  else some (String.ofList
    (line "chain_id" (Toml.quote config.chain.toList)
      ++ line "log_format" (Toml.quote config.logFormat.name.toList)
      ++ line "log_level" (Toml.quote config.logLevel.toList)
      ++ "\n[hardware]\n".toList
      ++ line "timeout_ms" (Nat.toDigits 10 config.hardware.timeout.toNat)
      ++ line "derivation_path" (Toml.quote config.hardware.path.display.toList)))

/-- The value under a key read in a given way, or the default where the key is missing. -/
def field {α : Type} (entries : Toml.Entries) (key : String) (read : Toml.Value → Option α)
    (fallback : α) : Option α :=
  -- A key that is there must be right.
  match entries.lookup key with
  | none => some fallback
  | some value => read value

/-- A text. -/
def readText? : Toml.Value → Option String
  | .text content => some content
  | _ => none

/-- An integer that is not negative. -/
def readTimeout? : Toml.Value → Option UInt64
  | .integer value => if value < 0 then none else some (UInt64.ofNat value.toNat)
  | _ => none

/-- The written form of a path. -/
def readPath? (value : Toml.Value) : Option Path := do
  -- The reader of paths decides.
  let content ← readText? value
  (Path.parse content).toOption

/-- Whether a value stands for nothing: a table or a sequence that is empty. -/
def isNothing : Toml.Value → Bool
  | .array elements => elements.isEmpty
  | .inline entries => entries.isEmpty
  | .table _ entries => entries.isEmpty
  | .tables rows => rows.isEmpty
  | _ => false

/-- A format: its name, or a table with nothing under its name. -/
def readFormat? : Toml.Value → Option Log.Format
  | .text name => Log.Format.names.lookup name
  | .inline [(name, value)] => if isNothing value then Log.Format.names.lookup name else none
  | .table _ [(name, value)] => if isNothing value then Log.Format.names.lookup name else none
  | _ => none

/-- The settings of a device from the entries of a table. -/
def hardwareOfEntries? (entries : Toml.Entries) : Option HardwareConfig := do
  -- Other keys are passed over.
  let timeout ← field entries "timeout_ms" readTimeout? HardwareConfig.default.timeout
  let path ← field entries "derivation_path" readPath? HardwareConfig.default.path
  return ⟨timeout, path⟩

/-- The settings of a device: a table of some kind, or an array of its values in order. -/
def readHardware? : Toml.Value → Option HardwareConfig
  | .inline entries => hardwareOfEntries? entries
  | .table _ entries => hardwareOfEntries? entries
  | .array elements => do
    -- An array may be short; what is too much is passed over.
    let timeout ← match elements[0]? with
      | none => some HardwareConfig.default.timeout
      | some value => readTimeout? value
    let path ← match elements[1]? with
      | none => some HardwareConfig.default.path
      | some value => readPath? value
    return ⟨timeout, path⟩
  | .moment =>
    -- A date or time is a table whose only key is none of these.
    some HardwareConfig.default
  | _ => none

/-- The configuration that the entries of a document describe. -/
def ofEntries? (entries : Toml.Entries) : Option Config := do
  -- Other keys are passed over.
  let chain ← field entries "chain_id" readText? default.chain
  let logFormat ← field entries "log_format" readFormat? default.logFormat
  let logLevel ← field entries "log_level" readText? default.logLevel
  let hardware ← field entries "hardware" readHardware? default.hardware
  return ⟨chain, logFormat, logLevel, hardware⟩

/-- The configuration that a document describes. -/
def parse? (text : String) : Option Config := do
  -- The whole document must be well formed.
  ofEntries? (← Toml.parse? text)

/-- The configuration in a file with the given content, if there is one. -/
def load? (content : Option Bytes) : Option Config := do
  -- The file must be there and must be text.
  parse? (← Bytes.toText? (← content))

end Config

/-- The settings of a device. -/
def Json.Form.hardwareConfig : Json.Form HardwareConfig :=
  Fields.record
    (.defaulted "timeout_ms" .word64 HardwareConfig.default.timeout
      (.defaulted "derivation_path" .path HardwareConfig.default.path .nil))
    (fun (timeout, path, _) => ⟨timeout, path⟩)
    (fun config => (config.timeout, config.path, ()))

/-- The configuration of a wallet. -/
def Json.Form.config : Json.Form Config :=
  Fields.record
    (.defaulted "chain_id" .text Config.default.chain
      (.defaulted "log_format" Log.formatForm Config.default.logFormat
        (.defaulted "log_level" .text Config.default.logLevel
          (.defaulted "hardware" .hardwareConfig Config.default.hardware .nil))))
    (fun (chain, logFormat, logLevel, hardware, _) => ⟨chain, logFormat, logLevel, hardware⟩)
    (fun config => (config.chain, config.logFormat, config.logLevel, config.hardware, ()))

end Countersign
