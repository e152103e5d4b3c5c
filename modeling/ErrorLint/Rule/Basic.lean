/-
This file brings the rules together. A rule is one of the five with its options read.
What it remembers of a tree are the names imported so far and the uses of messages seen
so far.
-/

import ErrorLint.Config.Error
import ErrorLint.Config.JsonValue
import ErrorLint.Rule.Kind
import ErrorLint.Rule.NoGenericError
import ErrorLint.Rule.NoLiteralErrorMessage
import ErrorLint.Rule.NoThrowLiteral
import ErrorLint.Rule.RequireCustomError
import ErrorLint.Rule.RequireHardcodedErrorMessage

namespace ErrorLint

/-- A rule with its options. -/
inductive Rule where
  | noThrowLiteral (options : NoThrowLiteral.Options)
  | noGenericError (options : NoGenericError.Options)
  | requireCustomError (options : RequireCustomError.Options)
  | noLiteralErrorMessage (settings : NoLiteralErrorMessage.Settings)
  | requireHardcodedErrorMessage (options : RequireHardcodedErrorMessage.Options)

/-- What a rule remembers of the nodes that it has been shown. -/
structure Memory where
  imported : ImportedNames
  uses : Occurrences Place
  deriving Repr, DecidableEq

def Memory.empty : Memory := ⟨ImportedNames.empty, Occurrences.empty⟩

namespace Rule

def id : Rule → RuleId
  | noThrowLiteral _ => .noThrowLiteral
  | noGenericError _ => .noGenericError
  | requireCustomError _ => .requireCustomError
  | noLiteralErrorMessage _ => .noLiteralErrorMessage
  | requireHardcodedErrorMessage _ => .requireHardcodedErrorMessage

/-- The shapes of the nodes that the rule is shown. -/
def visits (rule : Rule) : List Shape := rule.id.describe.visits

/-! ### What a rule says and remembers -/

/-- What a rule says about a node, from what it remembers. -/
def reports (rule : Rule) (tree : SourceTree) (memory : Memory) (node : Node) : List Report :=
  match rule with
  | noThrowLiteral options => NoThrowLiteral.reports options tree node
  | noGenericError options => NoGenericError.reports options node
  | requireCustomError options => RequireCustomError.reports options memory.imported node
  | noLiteralErrorMessage settings => NoLiteralErrorMessage.reports settings node
  | requireHardcodedErrorMessage _ => []

/-- What a rule remembers after a node. -/
def remember (rule : Rule) (memory : Memory) (node : Node) : Memory :=
  match rule with
  | requireCustomError _ => { memory with imported := memory.imported.record node }
  | requireHardcodedErrorMessage options =>
    { imported := memory.imported.record node
      uses := RequireHardcodedErrorMessage.collect options memory.imported memory.uses node }
  | _ => memory

/-- What a rule says after the whole tree. -/
def closingReports (rule : Rule) (memory : Memory) : List Report :=
  match rule with
  | requireHardcodedErrorMessage options =>
    RequireHardcodedErrorMessage.closingReports options memory.uses
  | _ => []

instance : RuleKind Rule Memory where
  id := id
  visits := visits
  start _ := Memory.empty
  reports := reports
  remember := remember
  closingReports := closingReports

@[simp]
theorem kind_id (rule : Rule) : RuleKind.id rule = rule.id := rfl

@[simp]
theorem kind_visits (rule : Rule) : RuleKind.visits rule = rule.visits := rfl

@[simp]
theorem kind_closingReports (rule : Rule) (memory : Memory) :
    RuleKind.closingReports rule memory = rule.closingReports memory := rfl

/-! ### Activation -/

/-- Reads the options of a rule. Without options, the defaults hold. -/
def readOptions {Options : Type} (id : RuleId) (read : Value → Except Mismatch Options)
    (defaults : Options) (options : Option JsonValue) : Except ConfigError Options :=
  match options.map JsonValue.value with
  | none | some .null => .ok defaults
  | some value => (read value).mapError fun fault => .invalidOptions id.name fault.message

/-- The rule of an id with the given options. -/
def activate (engine : PatternEngine) (id : RuleId) (options : Option JsonValue) :
    Except ConfigError Rule :=
  match id with
  | .noThrowLiteral =>
    (readOptions id NoThrowLiteral.Options.read NoThrowLiteral.Options.defaults options).map
      noThrowLiteral
  | .noGenericError =>
    (readOptions id NoGenericError.Options.read NoGenericError.Options.defaults options).map
      noGenericError
  | .requireCustomError =>
    (readOptions id RequireCustomError.Options.read RequireCustomError.Options.defaults
      options).map requireCustomError
  | .noLiteralErrorMessage => do
    let options ← readOptions id NoLiteralErrorMessage.Options.read
      NoLiteralErrorMessage.Options.defaults options
    match NoLiteralErrorMessage.Settings.ofOptions engine options with
    | .ok settings => .ok (noLiteralErrorMessage settings)
    | .error (pattern, message) => .error (.invalidPattern id.name pattern message)
  | .requireHardcodedErrorMessage => do
    let options ← readOptions id RequireHardcodedErrorMessage.Options.read
      RequireHardcodedErrorMessage.Options.defaults options
    if options.threshold < RequireHardcodedErrorMessage.minThreshold then
      .error (.invalidOptions id.name
        (RequireHardcodedErrorMessage.lowThresholdMessage options.threshold))
    else
      .ok (requireHardcodedErrorMessage options)

/-- The rule of a name with the given options. -/
def create (engine : PatternEngine) (name : String) (options : Option JsonValue) :
    Except ConfigError Rule :=
  match RuleId.ofName? name with
  | some id => activate engine id options
  | none => .error (.unknownRule name)

theorem create_name (engine : PatternEngine) (id : RuleId) (options : Option JsonValue) :
    create engine id.name options = activate engine id options := by
  rw [create, RuleId.ofName?_name]

theorem id_of_activate {engine : PatternEngine} {id : RuleId} {options : Option JsonValue}
    {rule : Rule} (activated : activate engine id options = .ok rule) : rule.id = id := by
  cases id with
  | noThrowLiteral | noGenericError | requireCustomError =>
    obtain ⟨_, -, rfl⟩ := map_eq_ok_iff.mp activated
    rfl
  | noLiteralErrorMessage =>
    obtain ⟨read, -, finished⟩ := bind_eq_ok_iff.mp activated
    split at finished
    · obtain rfl := Except.ok.inj finished
      rfl
    · cases finished
  | requireHardcodedErrorMessage =>
    obtain ⟨read, -, finished⟩ := bind_eq_ok_iff.mp activated
    split at finished
    · cases finished
    · obtain rfl := Except.ok.inj finished
      rfl

theorem name_of_create {engine : PatternEngine} {name : String} {options : Option JsonValue}
    {rule : Rule} (created : create engine name options = .ok rule) : rule.id.name = name := by
  rw [create] at created
  split at created
  · rename_i id found
    rw [id_of_activate created]
    simpa using List.find?_some found
  · cases created

end Rule

end ErrorLint
