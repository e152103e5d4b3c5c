/-
This file holds findings. A rule reports a message by its id, with values for the
template and perhaps a fix; a diagnostic is such a report with the rendered message,
the rule that made it, and the severity at which the rule runs.
-/

import ErrorLint.Config.Severity
import ErrorLint.Fix.Splice
import ErrorLint.Message.Data
import ErrorLint.Rule.Meta

namespace ErrorLint

/-- What a rule says about a place. -/
structure Report where
  place : Place
  messageId : String
  data : MessageData
  fix : Option Fix
  deriving Repr, DecidableEq

namespace Report

/-- A report without values and without a fix. -/
def plain (place : Place) (messageId : String) : Report :=
  ⟨place, messageId, MessageData.empty, none⟩

/-- The report with one more value. -/
def withData (report : Report) (name : String) (value : Datum) : Report :=
  { report with data := report.data.insert name value }

/-- The report with a fix. -/
def withFix (report : Report) (fix : Fix) : Report :=
  { report with fix := some fix }

end Report

/-- A finding. -/
structure Diagnostic where
  rule : RuleId
  severity : Severity
  messageId : String
  message : String
  data : MessageData
  place : Place
  fix : Option Fix
  deriving Repr, DecidableEq

namespace Diagnostic

/-- The finding that a report of a rule amounts to. A message without a template shows
its id. -/
def ofReport (rule : RuleId) (severity : Severity) (report : Report) : Diagnostic :=
  { rule := rule
    severity := severity
    messageId := report.messageId
    message :=
      match rule.describe.message? report.messageId with
      | some template => report.data.interpolate template
      | none => report.messageId
    data := report.data
    place := report.place
    fix := report.fix }

section

variable (rule : RuleId) (severity : Severity) (report : Report)

@[simp]
theorem rule_ofReport : (ofReport rule severity report).rule = rule := rfl

@[simp]
theorem severity_ofReport : (ofReport rule severity report).severity = severity := rfl

@[simp]
theorem messageId_ofReport : (ofReport rule severity report).messageId = report.messageId := rfl

@[simp]
theorem data_ofReport : (ofReport rule severity report).data = report.data := rfl

@[simp]
theorem place_ofReport : (ofReport rule severity report).place = report.place := rfl

@[simp]
theorem fix_ofReport : (ofReport rule severity report).fix = report.fix := rfl

theorem message_ofReport {template : String}
    (found : rule.describe.message? report.messageId = some template) :
    (ofReport rule severity report).message = report.data.interpolate template := by
  rw [ofReport, found]

end

def isFixable (diagnostic : Diagnostic) : Bool := diagnostic.fix.isSome

def line (diagnostic : Diagnostic) : Nat := diagnostic.place.position.line

end Diagnostic

end ErrorLint
