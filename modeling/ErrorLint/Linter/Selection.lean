/-
This file builds the linter of a configuration. A preset selects rules first; the
entries of the configuration then override what is selected, or select more. Rules
that end up off are passed over with their options unread.
-/

import ErrorLint.Config.Basic
import ErrorLint.Linter.Basic
import ErrorLint.Rule.Basic

namespace ErrorLint

/-- A rule that is selected, with its severity and its options. -/
structure Selection where
  id : String
  severity : Severity
  options : Option JsonValue

namespace Selection

/-- The rules that a preset switches on. -/
def ofPreset : Preset → List Selection
  | .recommended | .strict => [
    ⟨"no-generic-error", .error, none⟩,
    ⟨"require-custom-error", .error, none⟩,
    ⟨"no-throw-literal", .error, none⟩]

/-- Selects a rule: its entry takes the place of what was selected before for the id,
or comes last. -/
def override (id : String) (entry : RuleEntry) : List Selection → List Selection
  | [] => [⟨id, entry.severity, entry.options⟩]
  | selection :: rest =>
    if selection.id = id then ⟨id, entry.severity, entry.options⟩ :: rest
    else selection :: override id entry rest

/-- Applies the entries of a configuration. An entry must be for a rule that exists,
even if it switches the rule off. -/
def applyEntries : List (String × RuleEntry) → List Selection →
    Except ConfigError (List Selection)
  | [], selected => .ok selected
  | (id, entry) :: rest, selected =>
    match RuleId.ofName? id with
    | none => .error (.unknownRule id)
    | some _ => applyEntries rest (override id entry selected)

/-- The rules that a configuration selects. -/
def ofConfig (config : Config) : Except ConfigError (List Selection) :=
  applyEntries config.rules.entries ((config.preset.map ofPreset).getD [])

end Selection

namespace Linter

/-- Registers the selected rules that are not off. -/
def addSelected (engine : PatternEngine) (linter : Linter Rule) :
    List Selection → Except ConfigError (Linter Rule)
  | [] => .ok linter
  | selection :: rest =>
    if selection.severity.isEnabled then
      match Rule.create engine selection.id selection.options with
      | .ok rule => (linter.add rule selection.severity).addSelected engine rest
      | .error fault => .error fault
    else
      linter.addSelected engine rest

/-- The linter of a configuration. -/
def ofConfig (engine : PatternEngine) (config : Config) : Except ConfigError (Linter Rule) := do
  config.validate
  empty.addSelected engine (← Selection.ofConfig config)

end Linter

end ErrorLint
