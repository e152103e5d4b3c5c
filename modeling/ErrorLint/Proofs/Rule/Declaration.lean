/-
This file ties what rules report to what they declare. A rule names its messages by ids and
hands over values by name; the templates stand in a table that knows nothing of the rule. If
an id is not in the table the finding shows the id, and if a name has no value the finding
shows the name in its braces, so a rule and its table could drift apart without anyone
noticing. They have not: every report has a template, every placeholder of the template has
a value, and a fix comes only from rules that say that they have fixes.
-/

import ErrorLint.Proofs.Message.Template
import ErrorLint.Proofs.Rule.Proposal

namespace ErrorLint

/-! ### The templates, taken apart -/

/-- Looking up in a list whose values are mapped is mapping what is looked up. -/
theorem lookup_map_snd {α β : Type} (map : α → β) (key : String) (entries : List (String × α)) :
    (entries.map fun (name, value) => (name, map value)).lookup key =
      (entries.lookup key).map map := by
  induction entries with
  | nil => rfl
  | cons entry rest inductionHypothesis =>
    rw [List.map_cons, List.lookup_cons, List.lookup_cons, inductionHypothesis]
    cases key == entry.1 <;> rfl

namespace RuleId

/-- The segments of every template of a rule, by the id of the message. -/
def layouts : RuleId → List (String × List Segment)
  | .noThrowLiteral => [
    ("object", [.text "Expected an error object to be thrown."]),
    ("undef", [.text "Do not throw undefined."]),
    ("literal", [.text "Expected an error object to be thrown, not a literal."])]
  | .noGenericError => [
    ("noGenericError",
      [.text "Avoid throwing generic Error. Use a custom error class instead."]),
    ("noGenericErrorWithSuggestion",
      [.text "Avoid throwing generic Error. Consider using ",
        .placeholder "suggestion",
        .text " instead."])]
  | .requireCustomError => [
    ("requireCustomError", [.text "Use custom error classes instead of generic Error."]),
    ("requireErrorSuffix", [.text "Custom error class names should end with \"Error\"."]),
    ("extendError",
      [.text "Custom error classes should extend Error or another error class."])]
  | .noLiteralErrorMessage => [
    ("noLiteralMessage",
      [.text "Avoid literal string message \"",
        .placeholder "message",
        .text "\" in ",
        .placeholder "errorClass",
        .text ". Create a dedicated error class with a hardcoded message instead."]),
    ("noTemplateLiteralMessage",
      [.text "Avoid template literal message in ",
        .placeholder "errorClass",
        .text ". Create a dedicated error class with a hardcoded message instead."])]
  | .requireHardcodedErrorMessage => [
    ("repeatedErrorMessage",
      [.text "The error message \"",
        .placeholder "message",
        .text "\" is used ",
        .placeholder "count",
        .text " times with ",
        .placeholder "errorClass",
        .text ". Consider hardcoding this message in the error class constructor.",
        .text " Ensure you have tests covering this error scenario."])]

/-- The templates are the spellings of their segments. -/
theorem messages_describe (rule : RuleId) :
    rule.describe.messages.map (fun (messageId, template) => (messageId, template.toList)) =
      rule.layouts.map fun (messageId, segments) =>
        (messageId, segments.flatMap Segment.spelling) := by
  cases rule
  all_goals
    simp only [describe, layouts, List.map_cons, List.map_nil, List.flatMap_cons, List.flatMap_nil,
      Segment.spelling, String.toList_append]
    repeat rw [String.toList_ofList]
    rfl

/-- The template of a message is the spelling of its segments. -/
theorem message?_describe {rule : RuleId} {messageId : String} {segments : List Segment}
    (listed : rule.layouts.lookup messageId = some segments) :
    ∃ template, rule.describe.message? messageId = some template ∧
      template.toList = segments.flatMap Segment.spelling := by
  have found : ((rule.describe.message? messageId).map (·.toList)) =
      some (segments.flatMap Segment.spelling) := by
    have same := congrArg (List.lookup messageId) rule.messages_describe
    rw [lookup_map_snd String.toList, lookup_map_snd (List.flatMap Segment.spelling),
      listed] at same
    exact same
  exact Option.map_eq_some_iff.mp found

end RuleId

/-! ### Reports and their templates -/

/-- A report is declared by a rule: the rule has a template for the message, and the report
has a value for every placeholder of it. -/
def Report.IsDeclaredBy (rule : RuleId) (report : Report) : Prop :=
  ∃ segments, rule.layouts.lookup report.messageId = some segments ∧
    ∀ name ∈ segments.filterMap Segment.name?, report.data.Binds name

/-- The message of a declared report is what the template says. -/
theorem Report.IsDeclaredBy.fills {rule : RuleId} {report : Report}
    (declared : report.IsDeclaredBy rule) (severity : Severity) :
    ∃ template, rule.describe.message? report.messageId = some template ∧
      report.data.Fills template (Diagnostic.ofReport rule severity report).message := by
  obtain ⟨segments, listed, bound⟩ := declared
  obtain ⟨template, found, spelled⟩ := RuleId.message?_describe listed
  refine ⟨template, found, ?_⟩
  rw [Diagnostic.message_ofReport rule severity report found]
  exact report.data.fills_interpolate spelled bound

theorem RequireHardcodedErrorMessage.isDeclaredBy_reportUse (group : MessageGroup Place)
    (place : Place) : (reportUse group place).IsDeclaredBy .requireHardcodedErrorMessage := by
  refine ⟨_, rfl, ?_⟩
  show ∀ name ∈ ["message", "count", "errorClass"], _
  simp [reportUse, Report.withData]

namespace Rule

/-- Whatever a rule says about a node is declared. -/
theorem isDeclaredBy_of_mem_reports {rule : Rule} {tree : SourceTree} {memory : Memory}
    {node : Node} {report : Report} (member : report ∈ rule.reports tree memory node) :
    report.IsDeclaredBy rule.id := by
  cases mem_reports_iff.mp member with
  | throwsNameable =>
    refine ⟨_, rfl, ?_⟩
    show ∀ name ∈ ["suggestion"], _
    simp [Report.withData, Report.withFix]
  | passesLiteral =>
    refine ⟨_, rfl, ?_⟩
    show ∀ name ∈ ["message", "errorClass"], _
    simp [Report.withData]
  | passesTemplate =>
    refine ⟨_, rfl, ?_⟩
    show ∀ name ∈ ["errorClass"], _
    simp [Report.withData]
  -- No other template has a placeholder.
  | _ => exact ⟨_, rfl, nofun⟩

/-- And so is what it says after the walk. -/
theorem isDeclaredBy_of_mem_closingReports {rule : Rule} {memory : Memory} {report : Report}
    (member : report ∈ rule.closingReports memory) : report.IsDeclaredBy rule.id := by
  unfold closingReports at member
  split at member
  · obtain ⟨group, -, inGroup⟩ := List.mem_flatMap.mp member
    obtain ⟨place, -, rfl⟩ := List.mem_map.mp inGroup
    exact RequireHardcodedErrorMessage.isDeclaredBy_reportUse group place
  · cases member

end Rule

/-- Only rules that say so have fixes. -/
theorem Proposal.fixable_describe {tree : SourceTree} {operand : Node} {rule : RuleId}
    {report : Report} (proposal : Proposal tree operand rule report) :
    rule.describe.fixable = true := by
  cases proposal <;> rfl

end ErrorLint
