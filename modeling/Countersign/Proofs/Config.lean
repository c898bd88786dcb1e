import Countersign.Config
import Countersign.Proofs.Path
import Countersign.Proofs.Toml.Documents
import Mathlib.Data.List.Nodup

/-! Configurations are read back from their written form, and from what is left of it when lines
are deleted. -/

namespace Countersign.Config

/-- The keys of a configuration. -/
inductive Key where
  /-- The chain that signatures are made for. -/
  | chain
  /-- How log lines are written. -/
  | logFormat
  /-- The filter of log lines. -/
  | logLevel
  /-- How long a single call to a device may take. -/
  | timeout
  /-- The path to the key that signs. -/
  | path
  deriving DecidableEq

namespace Key

/-- The name of a key. -/
def name : Key → String
  | chain => "chain_id"
  | logFormat => "log_format"
  | logLevel => "log_level"
  | timeout => "timeout_ms"
  | path => "derivation_path"

/-- The keys in front of all headers. -/
def outer : List Key := [chain, logFormat, logLevel]

/-- The keys of the table of the device. -/
def inner : List Key := [timeout, path]

/-- Different keys have different names. -/
theorem name_inj {key other : Key} : key.name = other.name ↔ key = other := by
  constructor
  -- Five names, compared pair by pair.
  · cases key <;> cases other <;> simp [name]
  · rintro rfl
    rfl

end Key

variable {config : Config} {key : Key} {kept : Key → Bool} {keys : List Key}

/-- What stands behind a key. -/
def written (config : Config) : Key → List Char
  | .chain => Toml.quote config.chain.toList
  | .logFormat => Toml.quote config.logFormat.name.toList
  | .logLevel => Toml.quote config.logLevel.toList
  | .timeout => Nat.toDigits 10 config.hardware.timeout.toNat
  | .path => Toml.quote config.hardware.path.display.toList

/-- The value of a key. -/
def value (config : Config) : Key → Toml.Value
  | .chain => .text config.chain
  | .logFormat => .text config.logFormat.name
  | .logLevel => .text config.logLevel
  | .timeout => .integer config.hardware.timeout.toNat
  | .path => .text config.hardware.path.display

/-- The lines of some of the keys. -/
def lines (config : Config) (keys : List Key) : List Char :=
  keys.flatMap fun key => line key.name (config.written key)

/-- The written form without the lines of the keys that are not kept. -/
def abridged (config : Config) (kept : Key → Bool) : List Char :=
  config.lines (Key.outer.filter kept) ++ "\n[hardware]\n".toList ++
    config.lines (Key.inner.filter kept)

/-- The configuration with the default in each field whose key is not kept. -/
def keeping (config : Config) (kept : Key → Bool) : Config where
  chain := if kept .chain then config.chain else default.chain
  logFormat := if kept .logFormat then config.logFormat else default.logFormat
  logLevel := if kept .logLevel then config.logLevel else default.logLevel
  hardware :=
    { timeout := if kept .timeout then config.hardware.timeout else default.hardware.timeout
      path := if kept .path then config.hardware.path else default.hardware.path }

/-- Nothing is left out of the written form unless the timeout is too large. -/
theorem write?_eq (config : Config) : config.write? =
    if Nat.pow 2 63 ≤ config.hardware.timeout.toNat then none
    else some (String.ofList (config.abridged fun _ => true)) := by
  -- Keeping every key leaves all lines.
  simp [write?, abridged, lines, Key.outer, Key.inner, Key.name, written]

/-! ### Lines -/

/-- A key with what is written for it. -/
def assignment (config : Config) (key : Key) : Toml.Assignment :=
  ⟨key.name, config.written key, config.value key⟩

/-- The lines of keys are those of their assignments. -/
theorem lines_eq (config : Config) (keys : List Key) :
    config.lines keys = (keys.map config.assignment).flatMap Toml.Assignment.line := by
  -- A key is turned into its assignment before its line is written.
  rw [List.flatMap_map]
  rfl

/-- All names may be written without quotes. -/
theorem isBare_name (key : Key) : Toml.IsBare key.name := by
  -- They consist of letters, digits and underscores.
  cases key <;> exact Toml.isBare_of_all rfl (by decide)

/-- Every line is a name and the spelling of a value, as long as the timeout is an integer of the
format. -/
theorem wellFormed_assignment (fits : config.hardware.timeout.toNat < Nat.pow 2 63) (key : Key) :
    (config.assignment key).WellFormed where
  bare := isBare_name key
  spells := by
    -- All fields but the timeout are texts, also those that are no texts in memory.
    have text (content : String) : Toml.Spells (Toml.quote content.toList) (.text content) := by
      have spells := Toml.spells_quote content.toList
      rwa [String.ofList_toList] at spells
    cases key with
    | chain => exact text _
    | logFormat => exact text _
    | logLevel => exact text _
    | timeout => exact Toml.spells_toDigits fits
    | path => exact text _

/-- The entries of some of the keys. -/
def entries (config : Config) (keys : List Key) : Toml.Entries :=
  (keys.map config.assignment).map Toml.Assignment.entry

/-- Under the name of a key its value is found if the key is listed. -/
theorem lookup_entries (config : Config) (keys : List Key) (key : Key) :
    (config.entries keys).lookup key.name =
      if key ∈ keys then some (config.value key) else none := by
  -- On the keys, whose names differ.
  induction keys with
  | nil => rfl
  | cons other rest ih =>
    rw [entries, List.map_cons, List.map_cons, ← entries, Toml.Assignment.entry, assignment,
      List.lookup_cons]
    by_cases same : key = other
    · simp [same]
    · simp [beq_false_of_ne (mt Key.name_inj.mp same), ih, same]

/-- No key is named like the table of the device. -/
theorem lookup_hardware (config : Config) (keys : List Key) :
    (config.entries keys).lookup "hardware" = none := by
  rw [List.lookup_eq_none_iff]
  intro entry member
  obtain ⟨assignment, listed, rfl⟩ := List.mem_map.mp member
  obtain ⟨key, -, rfl⟩ := List.mem_map.mp listed
  -- The name of the table is none of the five.
  cases key <;> rfl

/-- Keys that are listed once each have names that occur once each. -/
theorem nodup_names (config : Config) (distinct : keys.Nodup) :
    ((keys.map config.assignment).map Toml.Assignment.name).Nodup := by
  -- Names differ where keys do.
  rw [List.map_map]
  exact distinct.map fun _ _ same => Key.name_inj.mp same

section Documents

variable (fits : config.hardware.timeout.toNat < Nat.pow 2 63)

include fits

/-- The lines of some keys add their entries to a table that lacks them. -/
theorem reads_lines {build : Toml.Entries → Toml.Entries} {header : List String} {rest : List Char}
    {final : Toml.Document} (gathers : Toml.Gathers header build) (distinct : keys.Nodup)
    (reads : Toml.Document.Reads ⟨build (config.entries keys), header⟩ rest final) :
    Toml.Document.Reads ⟨build [], header⟩ (config.lines keys ++ rest) final := by
  -- The table is empty in front of the lines, so only the lines' own names can clash.
  have names : (([] : Toml.Entries).map Prod.fst ++
      (keys.map config.assignment).map Toml.Assignment.name).Nodup := nodup_names config distinct
  rw [lines_eq]
  refine Toml.reads_assignments gathers ?_ names reads
  intro assignment member
  obtain ⟨key, -, rfl⟩ := List.mem_map.mp member
  exact wellFormed_assignment fits key

/-- The lines in front of all headers are read, with or without an empty line behind them. -/
theorem reads_outer (gap : List Char) (empty : gap = [] ∨ gap = ['\n']) (kept : Key → Bool) :
    Toml.Document.Reads ⟨[], []⟩ (config.lines (Key.outer.filter kept) ++ gap)
      ⟨config.entries (Key.outer.filter kept), []⟩ := by
  have distinct : (Key.outer.filter kept).Nodup := List.Nodup.filter kept (by decide)
  refine reads_lines fits Toml.gathers_nil distinct ?_
  -- An empty line is passed and changes nothing.
  rcases empty with rfl | rfl
  · exact .nil _
  · exact Toml.reads_break (.nil _)

/-- What the written form is read as where only some keys are kept. -/
theorem reads_abridged (kept : Key → Bool) :
    Toml.Document.Reads ⟨[], []⟩ (config.abridged kept)
      ⟨config.entries (Key.outer.filter kept) ++
        [("hardware", .table .header (config.entries (Key.inner.filter kept)))], ["hardware"]⟩ := by
  have distinctOuter : (Key.outer.filter kept).Nodup := List.Nodup.filter kept (by decide)
  have distinctInner : (Key.inner.filter kept).Nodup := List.Nodup.filter kept (by decide)
  have fresh := lookup_hardware config (Key.outer.filter kept)
  have bare : Toml.IsBare "hardware" := Toml.isBare_of_all rfl (by decide)
  -- The outer lines, an empty line, the header, and the lines of the table under it.
  rw [abridged, List.append_assoc]
  refine reads_lines fits Toml.gathers_nil distinctOuter (Toml.reads_break ?_)
  refine Toml.reads_header bare [] fresh ?_
  rw [← List.append_nil (config.lines _)]
  exact reads_lines fits (Toml.gathers_table fresh) distinctInner (.nil _)

end Documents

/-! ### Fields -/

/-- A key that is kept has its value, and any other key its default. -/
theorem field_entries {α : Type} {read : Toml.Value → Option α} {content : α}
    (kept : Key → Bool) (listed : key ∈ keys) (reads : read (config.value key) = some content)
    (fallback : α) :
    field (config.entries (keys.filter kept)) key.name read fallback =
      some (if kept key then content else fallback) := by
  rw [field, lookup_entries]
  -- A key that is not kept is not found, and then the default is taken.
  cases chosen : kept key with
  | true => simp [listed, chosen, reads]
  | false => simp [chosen]

/-- The timeout is read back from its value. -/
theorem readTimeout?_value (config : Config) :
    readTimeout? (config.value .timeout) = some config.hardware.timeout := by
  -- As a word of sixty-four bits it is no negative integer.
  simp [value, readTimeout?]

/-- The path is read back from its value. -/
theorem readPath?_value (config : Config) :
    readPath? (config.value .path) = some config.hardware.path := by
  -- A path is displayed in the form that is parsed.
  simp [value, readPath?, readText?, Path.parse_display, Except.toOption]

/-- The format of the log is read back from its value. -/
theorem readFormat?_value (config : Config) :
    readFormat? (config.value .logFormat) = some config.logFormat := by
  rw [value]
  -- There are two formats, and each has its own name.
  cases config.logFormat <;> rfl

/-- The table of the device is read from the keys that are kept of it. -/
theorem hardwareOfEntries?_eq (config : Config) (kept : Key → Bool) :
    hardwareOfEntries? (config.entries (Key.inner.filter kept)) =
      some (config.keeping kept).hardware := by
  -- Both fields are looked up by themselves.
  have timeout : field _ "timeout_ms" _ _ = _ :=
    field_entries kept (show .timeout ∈ Key.inner by decide) (readTimeout?_value config)
      HardwareConfig.default.timeout
  have path : field _ "derivation_path" _ _ = _ :=
    field_entries kept (show .path ∈ Key.inner by decide) (readPath?_value config)
      HardwareConfig.default.path
  rw [hardwareOfEntries?, timeout, path]
  rfl

/-- Entries of other names leave the fields in front of all headers as they are. -/
theorem ofEntries?_append (config : Config) (kept : Key → Bool) {device : Toml.Entries}
    {hardware : HardwareConfig} (apart : ∀ key : Key, device.lookup key.name = none)
    (read : field device "hardware" readHardware? default.hardware = some hardware) :
    ofEntries? (config.entries (Key.outer.filter kept) ++ device) =
      some { config.keeping kept with hardware } := by
  -- The names in front are none of those behind, so each field is found on its own side.
  have found {α : Type} {read : Toml.Value → Option α} {content fallback : α} {key : Key}
      (listed : key ∈ Key.outer) (reads : read (config.value key) = some content) :
      field (config.entries (Key.outer.filter kept) ++ device) key.name read fallback =
        some (if kept key then content else fallback) := by
    rw [← field_entries kept listed reads fallback, field, field, List.lookup_append, apart,
      Option.or_none]
  have chain : field _ "chain_id" readText? default.chain = _ :=
    found (show .chain ∈ Key.outer by decide) rfl
  have logFormat : field _ "log_format" readFormat? default.logFormat = _ :=
    found (show .logFormat ∈ Key.outer by decide) (readFormat?_value config)
  have logLevel : field _ "log_level" readText? default.logLevel = _ :=
    found (show .logLevel ∈ Key.outer by decide) rfl
  -- What is in the table of the device is found behind.
  have behind : field (config.entries (Key.outer.filter kept) ++ device) "hardware" readHardware?
      default.hardware = some hardware := by
    rw [← read, field, field, List.lookup_append, lookup_hardware, Option.none_or]
  rw [ofEntries?, chain, logFormat, logLevel, behind]
  rfl

/-! ### Texts -/

/-- Where only some keys are kept, the others are read as their defaults. -/
theorem parse?_abridged (fits : config.hardware.timeout.toNat < Nat.pow 2 63) (kept : Key → Bool) :
    parse? (String.ofList (config.abridged kept)) = some (config.keeping kept) := by
  -- No field in front of the header is named like the table behind it.
  have apart (key : Key) : List.lookup key.name
      [("hardware", Toml.Value.table .header (config.entries (Key.inner.filter kept)))] = none := by
    cases key <;> rfl
  rw [parse?, Toml.parse?_of_reads (reads_abridged fits kept)]
  exact ofEntries?_append config kept apart (hardwareOfEntries?_eq config kept)

/-- Without the table of the device nothing is known about it. -/
theorem parse?_outer (fits : config.hardware.timeout.toNat < Nat.pow 2 63) (kept : Key → Bool)
    {gap : List Char} (empty : gap = [] ∨ gap = ['\n']) :
    parse? (String.ofList (config.lines (Key.outer.filter kept) ++ gap)) =
      some { config.keeping kept with hardware := HardwareConfig.default } := by
  have none (key : Key) : List.lookup key.name ([] : Toml.Entries) = none := rfl
  -- There are no entries behind those that are kept.
  have read := ofEntries?_append config kept none rfl
  rw [List.append_nil] at read
  rw [parse?, Toml.parse?_of_reads (reads_outer fits gap empty kept)]
  exact read

/-- A configuration is read back from its written form, which exists unless the timeout exceeds the
integers of the format. Where the lines of some keys are deleted, just the fields of these keys are
read as their defaults; so are all fields of the device where its table is deleted, whether the
empty line in front of it is left or not. -/
theorem parse_written (config : Config) :
    (Nat.pow 2 63 ≤ config.hardware.timeout.toNat → config.write? = none) ∧
    (config.hardware.timeout.toNat < Nat.pow 2 63 →
      (∃ text, config.write? = some text ∧ parse? text = some config) ∧
      config.write? = some (String.ofList (config.abridged fun _ => true)) ∧
      ∀ kept,
        parse? (String.ofList (config.abridged kept)) = some (config.keeping kept) ∧
        ∀ gap, gap = [] ∨ gap = ['\n'] →
          parse? (String.ofList (config.lines (Key.outer.filter kept) ++ gap)) =
            some { config.keeping kept with hardware := HardwareConfig.default }) := by
  constructor
  -- Only the bound of the timeout stands in the way.
  · intro large
    rw [write?_eq, if_pos large]
  · intro fits
    -- To keep every key is one way to keep some.
    have whole : config.write? = some (String.ofList (config.abridged fun _ => true)) := by
      rw [write?_eq, if_neg (Nat.not_le_of_lt fits)]
    refine ⟨⟨_, whole, parse?_abridged fits _⟩, whole, ?_⟩
    intro kept
    exact ⟨parse?_abridged fits kept, fun gap empty => parse?_outer fits kept empty⟩

end Countersign.Config
