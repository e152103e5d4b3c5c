/-
This file holds configurations: a preset, and entries for single rules that override
it. An entry gives a severity and options, which stay unread until the rule is
activated.
-/

import ErrorLint.Config.Error
import ErrorLint.Config.JsonValue
import ErrorLint.Config.Severity
import ErrorLint.Text.Blank

namespace ErrorLint

/-- The entry of one rule. -/
structure RuleEntry where
  severity : Severity
  options : Option JsonValue

namespace RuleEntry

/-- What holds if an entry says nothing. -/
def defaults : RuleEntry := ⟨.error, none⟩

/-- Whether two entries say the same. -/
def same (left right : RuleEntry) : Bool :=
  left.severity = right.severity &&
    match left.options, right.options with
    | none, none => true
    | some left, some right => left.value.same right.value
    | _, _ => false

end RuleEntry

/-- A configuration. -/
structure Config where
  preset : Option Preset
  /-- The entries of rules, by the ids of the rules. -/
  rules : SortedMap RuleEntry

namespace Config

/-- No preset and no entries. -/
def empty : Config := ⟨none, .empty⟩

/-- The recommended preset and no entries. -/
def recommended : Config := ⟨some .recommended, .empty⟩

/-- Sets the entry of a rule. -/
def setRule (config : Config) (id : String) (entry : RuleEntry) : Config :=
  { config with rules := config.rules.insert id entry }

/-- Whether two lists of entries are the same. -/
def sameRules : List (String × RuleEntry) → List (String × RuleEntry) → Bool
  | [], [] => true
  | (id, left) :: lefts, (other, right) :: rights =>
    id = other && left.same right && sameRules lefts rights
  | _, _ => false

/-- Whether two configurations say the same. -/
def same (left right : Config) : Bool :=
  left.preset = right.preset && sameRules left.rules.entries right.rules.entries

/-! ### Validation -/

/-- What is wrong with the entry of an id, whatever the rule. -/
def entryFault? (id : String) (entry : RuleEntry) : Option ConfigError :=
  if Text.trim id.toList = [] then
    some (.invalid "rules" "rule id must not be empty")
  else if entry.options.any (!·.value.isObject) then
    some (.invalid ("rules." ++ id ++ ".options") "must be a table")
  else
    none

/-- Checks the shape of a configuration; the first fault decides. -/
def validate (config : Config) : Except ConfigError Unit :=
  match config.rules.entries.findSome? fun (id, entry) => entryFault? id entry with
  | some fault => .error fault
  | none => .ok ()

/-! ### Reading -/

/-- Reads the options of an entry: null means that there are none. -/
def readEntryOptions (options : JsonValue) : Except Mismatch (Option JsonValue) :=
  match options.value with
  | .null => .ok none
  | _ => .ok (some options)

def entryFields : List (RecordField JsonValue RuleEntry) := [
  RecordField.of "severity" (fun value => value.value.readVariant Severity.name Severity.all)
    fun value entry => { entry with severity := value },
  RecordField.of "options" readEntryOptions fun value entry => { entry with options := value }]

def readEntry (value : JsonValue) : Except Mismatch RuleEntry :=
  value.layout.read "RuleEntry" entryFields RuleEntry.defaults

/-- Reads the entries of the rules one after the other. -/
def readRuleEntries : List (String × JsonValue) → Except Mismatch (SortedMap RuleEntry)
  | [] => .ok .empty
  | (id, value) :: rest => do
    let entry ← readEntry value
    return (← readRuleEntries rest).insert id entry

def readRules (value : JsonValue) : Except Mismatch (SortedMap RuleEntry) :=
  match value.layout with
  | .byName entries => readRuleEntries entries
  | _ => .error (.invalidType value.value.found "a map")

def readPreset (value : JsonValue) : Except Mismatch (Option Preset) :=
  match value.value with
  | .null => .ok none
  | value => (value.readVariant Preset.name Preset.all).map some

def fields : List (RecordField JsonValue Config) := [
  RecordField.of "extends" readPreset fun value config => { config with preset := value },
  RecordField.of "rules" readRules fun value config => { config with rules := value }]

/-- Reads a configuration from a value. -/
def read (value : JsonValue) : Except Mismatch Config :=
  value.layout.read "ThrowlintConfig" fields empty

end Config

end ErrorLint
