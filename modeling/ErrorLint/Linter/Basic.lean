/-
This file runs rules of a kind over a tree. A linter holds the active rules in the order
of their registration, and a table that says for every shape which of them want to see
it. The tree is walked once; every node is shown to the rules that the table names,
and after the walk every rule has its last word. Findings that a directive hides are
taken out at the end.
-/

import ErrorLint.Rule.Kind
import ErrorLint.Suppression

namespace ErrorLint

variable {R M : Type} [RuleKind R M]

/-- A rule with the severity at which it runs. -/
structure Activation (R : Type) where
  rule : R
  severity : Severity

/-- The finding that a report of an active rule amounts to. -/
def Activation.diagnostic (activation : Activation R) (report : Report) : Diagnostic :=
  Diagnostic.ofReport (RuleKind.id activation.rule) activation.severity report

/-- For every shape, the positions of the rules that want to see it. -/
abbrev Dispatch := List (Shape × List Nat)

namespace Dispatch

/-- The positions of the rules that want to see a shape. -/
def slots (dispatch : Dispatch) (shape : Shape) : List Nat := (dispatch.lookup shape).getD []

/-- Adds a position to the slots of a shape, unless it is there. -/
def insert (position : Nat) (shape : Shape) : Dispatch → Dispatch
  | [] => [(shape, [position])]
  | (present, positions) :: rest =>
    if present = shape then
      (present, if positions.contains position then positions else positions ++ [position]) :: rest
    else
      (present, positions) :: insert position shape rest

end Dispatch

/-- The active rules and their table. -/
structure Linter (R : Type) where
  activations : List (Activation R)
  dispatch : Dispatch

namespace Linter

/-- A linter without rules. -/
def empty : Linter R := ⟨[], []⟩

/-- Registers a rule. A rule that is off is dropped. -/
def add (linter : Linter R) (rule : R) (severity : Severity) : Linter R :=
  if severity.isEnabled then
    { activations := linter.activations ++ [⟨rule, severity⟩]
      dispatch := (RuleKind.visits rule).foldl
        (fun dispatch shape => dispatch.insert linter.activations.length shape) linter.dispatch }
  else
    linter

/-- The ids of the active rules. -/
def ruleIds (linter : Linter R) : List RuleId := linter.activations.map (RuleKind.id ·.rule)

def isEmpty (linter : Linter R) : Bool := linter.activations.isEmpty

/-! ### Walking a tree -/

/-- How far a walk has come: the memory of every rule, and the findings so far. -/
structure Walk (M : Type) where
  memories : List M
  diagnostics : List Diagnostic

/-- The state before the first node. -/
def start (linter : Linter R) : Walk M :=
  ⟨linter.activations.map (RuleKind.start ·.rule), []⟩

/-- Shows a node to the rule at a position. -/
def visit (linter : Linter R) (tree : SourceTree) (node : Node) (walk : Walk M) (position : Nat) :
    Walk M :=
  match linter.activations[position]?, walk.memories[position]? with
  | some activation, some memory =>
    { memories := walk.memories.set position (RuleKind.remember activation.rule memory node)
      diagnostics := walk.diagnostics ++
        (RuleKind.reports activation.rule tree memory node).map activation.diagnostic }
  | _, _ => walk

/-- Shows a node to every rule that wants to see its shape. -/
def step (linter : Linter R) (tree : SourceTree) (walk : Walk M) (node : Node) : Walk M :=
  (linter.dispatch.slots node.shape).foldl (linter.visit tree node) walk

/-- The findings that the rules have after the walk. -/
def close (linter : Linter R) (walk : Walk M) : List Diagnostic :=
  (linter.activations.zip walk.memories).flatMap fun (activation, memory) =>
    (RuleKind.closingReports activation.rule memory).map activation.diagnostic

/-- All findings on a tree, in the order in which they are made. -/
def emit (linter : Linter R) (tree : SourceTree) : List Diagnostic :=
  let walk := tree.nodes.foldl (linter.step tree) linter.start
  walk.diagnostics ++ linter.close walk

/-- The findings on a tree that no directive hides. -/
def lintTree (linter : Linter R) (tree : SourceTree) : List Diagnostic :=
  let suppressions := Suppressions.scan tree.source
  (linter.emit tree).filter fun diagnostic =>
    !suppressions.hides diagnostic.line diagnostic.rule.name

end Linter

end ErrorLint
