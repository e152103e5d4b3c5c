/-
This file holds the outcome of checking a source text: the findings with a few counts,
in the order in which they were made or in the order of their positions, and their
form as a JSON text.
-/

import ErrorLint.Config.Json
import ErrorLint.Linter.Basic
import ErrorLint.Source.Unit

namespace ErrorLint

/-- The findings on one source text. -/
structure LintResult where
  path : Option String
  diagnostics : List Diagnostic
  hasSyntaxErrors : Bool
  deriving Repr, DecidableEq

namespace LintResult

def errorCount (result : LintResult) : Nat :=
  result.diagnostics.countP (·.severity = .error)

def warningCount (result : LintResult) : Nat :=
  result.diagnostics.countP (·.severity = .warn)

def fixableCount (result : LintResult) : Nat := result.diagnostics.countP (·.isFixable)

def isClean (result : LintResult) : Bool := result.diagnostics.isEmpty

/-- The findings of one rule. -/
def byRule (result : LintResult) (rule : RuleId) : List Diagnostic :=
  result.diagnostics.filter (·.rule = rule)

/-- Sorts findings, or whatever stands for them, by their positions. Findings at one
position keep their order. -/
def sortByPosition {α : Type} (position : α → Position) (items : List α) : List α :=
  items.mergeSort fun left right => (position left).le (position right)

/-- The findings in the order of their positions. -/
def sorted (result : LintResult) : List Diagnostic :=
  sortByPosition (·.place.position) result.diagnostics

/-- The indices of the findings in the order of their positions. -/
def sortedIndices (result : LintResult) : List Nat :=
  (sortByPosition (·.1.place.position) result.diagnostics.zipIdx).map (·.2)

/-! ### The JSON form -/

def spanValue (span : Span) : Value :=
  .object [("start", .integer span.start), ("end", .integer span.stop)]

def datumValue : Datum → Value
  | .text value => .string value
  | .count value => .integer value

def fixValue (fix : Fix) : Value :=
  .object [("span", spanValue fix.span), ("replacement", .string fix.replacement)]

/-- A finding as a value. There is no entry for a fix if there is no fix. -/
def diagnosticValue (diagnostic : Diagnostic) : Value :=
  .object ([
    ("ruleId", .string diagnostic.rule.name),
    ("messageId", .string diagnostic.messageId),
    ("message", .string diagnostic.message),
    ("data", .object (diagnostic.data.entries.map fun (name, datum) => (name, datumValue datum))),
    ("severity", .string diagnostic.severity.name),
    ("span", spanValue diagnostic.place.span),
    ("line", .integer diagnostic.place.position.line),
    ("column", .integer diagnostic.place.position.column)] ++
    (diagnostic.fix.map fun fix => ("fix", fixValue fix)).toList)

/-- A result as a value. There is no entry for a path if there is no path. -/
def toValue (result : LintResult) : Value :=
  .object ((result.path.map fun path => ("path", Value.string path)).toList ++ [
    ("diagnostics", .array (result.diagnostics.map diagnosticValue)),
    ("errorCount", .integer result.errorCount),
    ("warningCount", .integer result.warningCount),
    ("fixableCount", .integer result.fixableCount),
    ("hasSyntaxErrors", .boolean result.hasSyntaxErrors)])

/-- The result as an indented JSON text. -/
def toJson (result : LintResult) : String := result.toValue.toIndentedJson 0

end LintResult

namespace Linter

variable {R M : Type} [RuleKind R M]

/-- Checks a source text. -/
def lintSource (linter : Linter R) (parser : Parser) (source : String) (dialect : Dialect) :
    LintResult :=
  let tree := SourceTree.ofSource parser source dialect
  ⟨none, linter.lintTree tree, tree.hasErrors⟩

/-- Checks a unit. -/
def lintUnit (linter : Linter R) (parser : Parser) (unit : SourceUnit) : LintResult :=
  { linter.lintSource parser unit.text unit.dialect with path := unit.path }

/-- Checks several units, one after the other. -/
def lintUnits (linter : Linter R) (parser : Parser) (units : List SourceUnit) : List LintResult :=
  units.map (linter.lintUnit parser)

end Linter

end ErrorLint
