/-
This file reads and writes configurations as TOML, by means of a library. The tables are
read in the order of the document, and the first fault decides. Options are kept as
values: a date or time becomes an object with a single entry for its text, and a number
that is infinite or undefined becomes null.
-/

import ErrorLint.Config.Basic
import ErrorLint.Toml.Library

namespace ErrorLint

namespace TomlValue

/-- The key under which the text of a date or time is found. -/
def dateTimeKey : String := "$__toml_private_datetime"

/-- The text of a number for a message. -/
def floatText (number : Float) : String :=
  if number.isNaN then "NaN"
  else if number.isInf then (if number < 0.0 then "-inf" else "inf")
  else Decimal.plain number

/-- What a value is, for a message. -/
def found : TomlValue → Found
  | .string value => .string value
  | .integer value => .integer value.toInt
  | .float value => .float (floatText value)
  | .boolean value => .boolean value
  | .dateTime _ | .table _ => .map
  | .array _ => .sequence

/-- The entries of a table. A date or time has one, its text. -/
def entries? : TomlValue → Option (List (String × TomlValue))
  | .table entries => some entries
  | .dateTime value => some [(dateTimeKey, .string (String.ofList value.text))]
  | _ => none

/-- Whether there is nothing behind the name of a variant. -/
def isVacant : TomlValue → Bool
  | .table entries => entries.isEmpty
  | .array items => items.isEmpty
  | _ => false

/-- Reads one of several names, written as a string or as a table with that one key and
nothing behind it. -/
def readVariant {α : Type} (name : α → String) (variants : List α) :
    TomlValue → Except Mismatch α
  | .string text => Mismatch.chooseVariant name variants text
  | .table [(key, payload)] => do
    let variant ← Mismatch.chooseVariant name variants key
    if payload.isVacant then return variant else .error .noVariant
  | _ => .error .noVariant

/-! ### Options -/

mutual

/-- The value that options hold. -/
def toValue : TomlValue → Value
  | .string value => .string value
  | .integer value => .integer value.toInt
  | .float value => if value.isFinite then .float value else .null
  | .boolean value => .boolean value
  | .dateTime value => .object [(dateTimeKey, .string (String.ofList value.text))]
  | .array items => .array (itemValues items)
  | .table entries => .object (entryValues entries)

def itemValues : List TomlValue → List Value
  | [] => []
  | item :: rest => item.toValue :: itemValues rest

def entryValues : List (String × TomlValue) → List (String × Value)
  | [] => []
  | (key, value) :: rest => SortedMap.insertEntry key value.toValue (entryValues rest)

end

theorem pairwise_entryValues (entries : List (String × TomlValue)) :
    (entryValues entries).Pairwise (·.1 < ·.1) := by
  induction entries with
  | nil => exact .nil
  | cons entry entries inductionHypothesis =>
    exact SortedMap.pairwise_insertEntry inductionHypothesis

mutual

theorem isWellFormed_toValue : (value : TomlValue) → value.toValue.IsWellFormed
  | .string _ | .boolean _ => List.forall_mem_singleton.2 trivial
  | .integer value => by
    have lower := value.minValue_le_toInt
    have upper := value.toInt_lt
    exact List.forall_mem_singleton.2 ⟨lower, Int.lt_trans upper (by decide)⟩
  | .float value => by
    rw [toValue]
    split <;> exact List.forall_mem_singleton.2 trivial
  | .dateTime _ => List.forall_mem_cons.2
    ⟨List.pairwise_singleton _ _, List.forall_mem_singleton.2 trivial⟩
  | .array items => List.forall_mem_cons.2 ⟨trivial, isOrderly_itemValues items⟩
  | .table entries => List.forall_mem_cons.2
    ⟨pairwise_entryValues entries, isOrderly_entryValues entries⟩

theorem isOrderly_itemValues : (items : List TomlValue) →
    ∀ part ∈ Value.itemParts (itemValues items), part.IsOrderly
  | [] => nofun
  | item :: rest => List.forall_mem_append.2
    ⟨isWellFormed_toValue item, isOrderly_itemValues rest⟩

theorem isOrderly_entryValues : (entries : List (String × TomlValue)) →
    ∀ part ∈ Value.entryParts (entryValues entries), part.IsOrderly
  | [] => nofun
  | (key, value) :: rest => by
    rw [Value.forall_mem_entryParts]
    intro entry inside
    obtain rfl | inside := SortedMap.mem_insertEntry inside
    · exact isWellFormed_toValue value
    · exact Value.forall_mem_entryParts.1 (isOrderly_entryValues rest) entry inside

end

/-- The options that a value gives. -/
def toJsonValue (value : TomlValue) : JsonValue := ⟨value.toValue, isWellFormed_toValue value⟩

end TomlValue

namespace RuleEntry

def tomlFields : List (RecordField TomlValue RuleEntry) := [
  RecordField.of "severity" (TomlValue.readVariant Severity.name Severity.all) fun value entry =>
    { entry with severity := value },
  RecordField.of "options" (fun value => .ok value.toJsonValue) fun value entry =>
    { entry with options := some value }]

/-- Reads the entry of a rule. Items of an array beyond its fields are ignored. -/
def ofTomlValue (value : TomlValue) : Except Mismatch RuleEntry :=
  match value.entries?, value with
  | some entries, _ => RecordField.readEntries tomlFields entries defaults
  | none, .array items => RecordField.readItems tomlFields items defaults
  | none, value => .error (.invalidType value.found "struct RuleEntry")

/-- What is written for an entry: absent options are left out. -/
def toValue (entry : RuleEntry) : Value :=
  .object (("severity", .string entry.severity.name) ::
    (entry.options.map fun options => ("options", options.value)).toList)

end RuleEntry

namespace Config

/-- Reads the entries of the rules one after the other. -/
def rulesOfToml : List (String × TomlValue) → Except Mismatch (SortedMap RuleEntry)
  | [] => .ok .empty
  | (id, value) :: rest => do
    let entry ← RuleEntry.ofTomlValue value
    return (← rulesOfToml rest).insert id entry

def tomlFields : List (RecordField TomlValue Config) := [
  RecordField.of "extends" (TomlValue.readVariant Preset.name Preset.all) fun value config =>
    { config with preset := some value },
  RecordField.of "rules" (fun value =>
    match value.entries? with
    | some entries => rulesOfToml entries
    | none => .error (.invalidType value.found "a map")) fun value config =>
    { config with rules := value }]

/-- What is written for a configuration: an absent preset is left out. -/
def toEntries (config : Config) : List (String × Value) :=
  (config.preset.map fun preset => ("extends", .string preset.name)).toList ++
    [("rules", .object (config.rules.entries.map fun (id, entry) => (id, entry.toValue)))]

variable (library : TomlLibrary)

/-- Reads a text at a path, whatever the configuration says. -/
def parse (path text : String) : Except ConfigError Config :=
  match library.read text with
  | .error message => .error (.malformed path message)
  | .ok entries =>
    (RecordField.readEntries tomlFields entries empty).mapError fun fault =>
      .malformed path fault.message

/-- Reads and checks a text. -/
def ofToml (text : String) : Except ConfigError Config := do
  let config ← parse library "<string>" text
  config.validate
  return config

/-- Writes a configuration. -/
def toToml (config : Config) : Except ConfigError String :=
  (library.write config.toEntries).mapError fun message => .malformed "<serialization>" message

end Config

end ErrorLint
