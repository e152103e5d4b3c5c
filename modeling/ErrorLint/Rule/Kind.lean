/-
This file says what a linter has to know of rules. While a tree is walked, every rule
has a memory of its own. Being shown a node, a rule reports what it has to say from what
it remembers, and then remembers more; at the end of the walk it may report once again.
-/

import ErrorLint.Diagnostic
import ErrorLint.Tree.Term

namespace ErrorLint

/-- The rules of a kind `R`, with memories of type `M`. -/
class RuleKind (R : Type) (M : outParam Type) where
  id : R → RuleId
  /-- The shapes of the nodes that a rule is shown. -/
  visits : R → List Shape
  /-- What a rule remembers before the first node. -/
  start : R → M
  /-- What a rule says about a node, from what it remembers. -/
  reports : R → SourceTree → M → Node → List Report
  /-- What a rule remembers after a node. -/
  remember : R → M → Node → M
  /-- What a rule says after the whole tree. -/
  closingReports : R → M → List Report

end ErrorLint
