/-
This file fixes a source text. Each pass checks the text and applies the fixes of the
findings, and the passes end when one of them changes nothing, or at a limit.
-/

import ErrorLint.Linter.Result

namespace ErrorLint

/-- The most passes that fixing makes. -/
def maxFixPasses : Nat := 10

/-- The outcome of fixing a source text. -/
structure FixReport where
  output : String
  /-- The passes that changed the text. -/
  passes : Nat
  fixesApplied : Nat
  /-- The findings on the output. -/
  remaining : List Diagnostic
  deriving Repr, DecidableEq

namespace Linter

variable {R M : Type} [RuleKind R M]

/-- Applies the fixes of some findings. -/
def applyFixes (source : String) (diagnostics : List Diagnostic) : Splice :=
  Splice.ofFixes source (diagnostics.filterMap (·.fix))

/-- Fixes a text until nothing changes, but at most `left` more times. -/
def fixPasses (linter : Linter R) (parser : Parser) (dialect : Dialect) :
    (left : Nat) → (source : String) → (passes fixesApplied : Nat) → FixReport
  | 0, source, passes, fixesApplied =>
    ⟨source, passes, fixesApplied,
      linter.lintTree (SourceTree.ofSource parser source dialect)⟩
  | left + 1, source, passes, fixesApplied =>
    let diagnostics := linter.lintTree (SourceTree.ofSource parser source dialect)
    let splice := applyFixes source diagnostics
    if splice.changed then
      linter.fixPasses parser dialect left splice.output (passes + 1)
        (fixesApplied + splice.applied)
    else
      ⟨source, passes, fixesApplied, diagnostics⟩

/-- Fixes a source text. -/
def fixSource (linter : Linter R) (parser : Parser) (source : String) (dialect : Dialect) :
    FixReport :=
  linter.fixPasses parser dialect maxFixPasses source 0 0

end Linter

end ErrorLint
