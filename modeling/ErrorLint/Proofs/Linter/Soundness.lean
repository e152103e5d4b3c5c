/-
This file says what every finding can be relied on for. A finding is put together from
tables and functions that are kept apart: the severity comes from the registration, the
message from a template and from values that the rule has chosen, the place from a node of
the tree, the fix from one of three rules. Whatever rules are registered, in whatever order
and how often, all these fit together in every finding, and the two counts of a result
count each finding once.
-/

import ErrorLint.Proofs.Linter.Attribution
import ErrorLint.Proofs.Rule.Anchor
import ErrorLint.Proofs.Rule.Declaration
import ErrorLint.Proofs.Tree.Geometry

namespace ErrorLint

/-- Every node of the tree covers its children. -/
def SourceTree.IsNested (tree : SourceTree) : Prop :=
  ∀ node ∈ tree.nodes, ∀ child ∈ node.children, child.span.Within node.span

instance (tree : SourceTree) : Decidable tree.IsNested :=
  inferInstanceAs (Decidable (∀ node ∈ tree.nodes, ∀ child ∈ node.children,
    child.span.Within node.span))

/-- A finding on a tree is sound for the rules that were registered. -/
structure Diagnostic.IsSound (entries : List (Activation Rule)) (tree : SourceTree)
    (diagnostic : Diagnostic) : Prop where
  /-- Its rule is active. -/
  active : diagnostic.rule ∈ (Linter.register entries).ruleIds
  /-- Its severity is one at which its rule was registered. -/
  registered : ∃ entry ∈ entries,
    entry.rule.id = diagnostic.rule ∧ entry.severity = diagnostic.severity
  /-- It is not off. -/
  enabled : diagnostic.severity ≠ .off
  /-- Its rule has a template for the message, and the message is what the template says with
  the values of the finding. -/
  declared : ∃ template, diagnostic.rule.describe.message? diagnostic.messageId = some template ∧
    diagnostic.data.Fills template diagnostic.message
  /-- Its span, line and column are those of a node. -/
  placed : ∃ node ∈ tree.nodes, diagnostic.place = node.place
  /-- If it has a fix, its rule is one that has fixes, and the fix replaces a node within the
  span of the finding. -/
  mends : ∀ fix ∈ diagnostic.fix, diagnostic.rule.describe.fixable = true ∧
    ∃ node ∈ tree.nodes, fix.span = node.span ∧ fix.span.Within diagnostic.place.span

/-! ### Fixes and their nodes -/

/-- A proposal replaces a node within the place of its report. -/
theorem Proposal.exists_target {tree : SourceTree} (nested : tree.IsNested) {operand : Node}
    (inTree : operand ∈ tree.nodes) {rule : RuleId} {report : Report}
    (proposal : Proposal tree operand rule report) :
    ∀ fix ∈ report.fix, ∃ target ∈ tree.nodes,
      fix.span = target.span ∧ fix.span.Within report.place.span := by
  intro fix hasFix
  cases proposal with
  | wraps _ =>
    cases hasFix
    exact ⟨operand, inTree, rfl, Span.Within.refl _⟩
  | renames callee _ constructs _ =>
    cases hasFix
    have isChild := Node.callee_mem_children constructs
    exact ⟨callee, SourceTree.mem_nodes_of_mem_children inTree isChild, rfl,
      nested operand inTree callee isChild⟩
  | suffixes callee _ constructs _ =>
    cases hasFix
    have isChild := Node.callee_mem_children constructs
    exact ⟨callee, SourceTree.mem_nodes_of_mem_children inTree isChild, rfl, Span.Within.refl _⟩

/-! ### Findings -/

namespace Activation

/-- What follows from the registration of a rule alone. -/
theorem isSound_diagnostic {entries : List (Activation Rule)} {activation : Activation Rule}
    (active : activation ∈ (Linter.register entries).activations) {tree : SourceTree}
    {report : Report} (declared : report.IsDeclaredBy activation.rule.id)
    (placed : ∃ node ∈ tree.nodes, report.place = node.place)
    (mends : ∀ fix ∈ report.fix, activation.rule.id.describe.fixable = true ∧
      ∃ node ∈ tree.nodes, fix.span = node.span ∧ fix.span.Within report.place.span) :
    (activation.diagnostic report).IsSound entries tree where
  active := List.mem_map.mpr ⟨activation, active, rfl⟩
  registered := by
    rw [Linter.activations_register] at active
    exact ⟨activation, (List.mem_filter.mp active).1, rfl, rfl⟩
  enabled := by
    rw [Linter.activations_register] at active
    have isEnabled := (List.mem_filter.mp active).2
    rwa [Activation.isEnabled, Severity.isEnabled, decide_eq_true_eq] at isEnabled
  declared := declared.fills activation.severity
  placed := placed
  mends := mends

end Activation

namespace Linter

theorem isSound_of_mem_emit {entries : List (Activation Rule)} {tree : SourceTree}
    (nested : tree.IsNested) {diagnostic : Diagnostic}
    (found : diagnostic ∈ (register entries).emit tree) : diagnostic.IsSound entries tree := by
  have built := isBuilt_register entries
  have placed := built.exists_place_of_mem_emit found
  rw [built.emit_eq] at found
  rcases List.mem_append.mp found with during | after
  · obtain ⟨node, inTree, foundAt⟩ := List.mem_flatMap.mp during
    obtain ⟨activation, active, foundAt⟩ := List.mem_flatMap.mp foundAt
    obtain ⟨memory, report, reported, rfl⟩ := Activation.exists_report_of_mem_findingsAt foundAt
    refine Activation.isSound_diagnostic active (Rule.isDeclaredBy_of_mem_reports reported)
      placed ?_
    intro fix hasFix
    obtain ⟨operand, throws, proposal⟩ :=
      Rule.proposal_of_mem_reports reported (Option.isSome_of_mem hasFix)
    exact ⟨proposal.fixable_describe,
      proposal.exists_target nested (SourceTree.mem_nodes_of_thrown? inTree throws) fix hasFix⟩
  · obtain ⟨activation, active, closing⟩ := List.mem_flatMap.mp after
    obtain ⟨report, reported, rfl⟩ := List.mem_map.mp closing
    refine Activation.isSound_diagnostic active (Rule.isDeclaredBy_of_mem_closingReports reported)
      placed ?_
    rw [Rule.fix_eq_none_of_mem_closingReports reported]
    exact nofun

end Linter

/-- Findings that are not off are errors or warnings. -/
theorem LintResult.errorCount_add_warningCount {result : LintResult}
    (enabled : ∀ diagnostic ∈ result.diagnostics, diagnostic.severity ≠ .off) :
    result.errorCount + result.warningCount = result.diagnostics.length := by
  have warnings : result.warningCount = result.diagnostics.countP fun diagnostic =>
      ¬decide (diagnostic.severity = .error) = true := by
    refine List.countP_congr fun diagnostic member => ?_
    have notOff := enabled diagnostic member
    cases severity : diagnostic.severity with
    | off => exact absurd severity notOff
    | warn => simp
    | error => simp
  rw [warnings]
  exact (List.length_eq_countP_add_countP _).symm

/-- Every finding on a tree with nested spans is sound, whatever rules are registered in
whatever order, and a result of these findings counts each of them as an error or as a
warning. -/
theorem Linter.lintTree_register_isSound (entries : List (Activation Rule)) (tree : SourceTree)
    (nested : tree.IsNested) :
    (∀ diagnostic ∈ (register entries).lintTree tree, diagnostic.IsSound entries tree) ∧
      ∀ path hasSyntaxErrors,
        let result : LintResult := ⟨path, (register entries).lintTree tree, hasSyntaxErrors⟩
        result.errorCount + result.warningCount = result.diagnostics.length := by
  have sound : ∀ diagnostic ∈ (register entries).lintTree tree,
      diagnostic.IsSound entries tree := by
    intro diagnostic found
    exact isSound_of_mem_emit nested (List.mem_filter.mp found).1
  refine ⟨sound, ?_⟩
  intro path hasSyntaxErrors result
  exact LintResult.errorCount_add_warningCount fun diagnostic found =>
    (sound diagnostic found).enabled

/-- Of the three rules of the sample one is off. The finding of the last one has a template
with three placeholders, one of them for a count. -/
theorem Linter.lintTree_register_isSound_sample :
    let diagnostics := (register Sample.mixedRules).lintTree Sample.mixedThrows
    let result : LintResult := ⟨none, diagnostics, false⟩
    Sample.mixedThrows.IsNested ∧
      diagnostics.map (fun finding => (finding.severity, finding.data.entries)) =
        [(.error, []),
          (.warn,
            [("count", .count 2), ("errorClass", .text "HttpError"), ("message", .text "b")])] ∧
      (∀ diagnostic ∈ diagnostics, diagnostic.IsSound Sample.mixedRules Sample.mixedThrows) ∧
      result.errorCount + result.warningCount = result.diagnostics.length := by
  intro diagnostics result
  have nested : Sample.mixedThrows.IsNested := by decide
  obtain ⟨sound, counted⟩ :=
    lintTree_register_isSound Sample.mixedRules Sample.mixedThrows nested
  refine ⟨nested, ?_, sound, counted none false⟩
  decide +kernel

end ErrorLint
