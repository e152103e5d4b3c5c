/-
This file says what a rule finds that is alone in a linter and says all it has to say on its
way. What a rule can say about a node is known from its verdicts, whatever it remembers. What
it remembers when it comes to a node is known from the nodes with smaller numbers. And no
verdict is lost because a rule is not shown the node: every verdict is about a node of a
shape that the rule wants to see. So the findings are the verdicts, one for each node at most
and in the order of the nodes.
-/

import ErrorLint.Proofs.Rule.Repetition

namespace ErrorLint

namespace Rule

variable {rule : Rule} {tree : SourceTree} {memory : Memory} {node : Node} {report : Report}

/-! ### Verdicts and the table -/

theorem shape_of_checkedClass? {name : String}
    (checked : NoLiteralErrorMessage.checkedClass? node = some name) :
    node.shape = .construction ∨ node.shape = .call := by
  rw [Node.shape_eq]
  unfold NoLiteralErrorMessage.checkedClass? at checked
  split at checked
  · rename_i constructs
    exact Or.inl (by rw [constructs]; rfl)
  · rename_i calls
    exact Or.inr (by rw [calls]; rfl)
  · cases checked

/-- A rule has verdicts only about nodes that it is shown. -/
theorem Verdict.wants (verdict : Verdict tree memory node rule report) :
    RuleKind.wants rule node = true := by
  rw [RuleKind.wants, kind_visits, List.contains_iff_mem]
  cases verdict with
  | throwsUndefined _ throws | throwsLiteral _ throws | throwsObject _ throws
  | throwsUnknown _ throws | throwsGeneric _ _ throws | throwsNameable _ _ _ throws
  | throwsBase _ _ _ throws | throwsUnmarked _ _ _ throws =>
    rw [Node.shape_of_thrown? throws]
    simp [visits, id, RuleId.describe]
  | declaresStray _ _ _ declares =>
    rw [Node.shape_eq, declares]
    simp [visits, id, RuleId.describe, Form.shape]
  | passesLiteral _ _ _ checked | passesTemplate _ _ checked =>
    rcases shape_of_checkedClass? checked with shape | shape
    · simp [shape, visits, id, RuleId.describe]
    · simp [shape, visits, id, RuleId.describe]

/-! ### The verdicts of a walk -/

/-- What the rule remembers when it comes to a node of a tree. -/
def memoryAt (rule : Rule) (tree : SourceTree) (node : Node) : Memory :=
  RuleKind.memoryOf rule (tree.nodes.take node.id)

/-- The reports of a walk over a tree, each with the node that it is about. -/
def verdicts (rule : Rule) (tree : SourceTree) : List (Node × Report) :=
  tree.nodes.flatMap fun node =>
    (rule.reports tree (rule.memoryAt tree node) node).map (node, ·)

theorem mem_verdicts {verdict : Node × Report} :
    verdict ∈ rule.verdicts tree ↔
      verdict.1 ∈ tree.nodes ∧
        Verdict tree (rule.memoryAt tree verdict.1) verdict.1 rule verdict.2 := by
  obtain ⟨node, report⟩ := verdict
  simp only [verdicts, List.mem_flatMap, List.mem_map, Prod.mk.injEq, ← mem_reports_iff]
  constructor
  · rintro ⟨node, inTree, report, reported, rfl, rfl⟩
    exact ⟨inTree, reported⟩
  · rintro ⟨inTree, reported⟩
    exact ⟨node, inTree, report, reported, rfl, rfl⟩

/-- The verdicts are about different nodes, in the order of their numbers. -/
theorem pairwise_verdicts (rule : Rule) (tree : SourceTree) :
    (rule.verdicts tree).Pairwise fun first second => first.1.id < second.1.id := by
  refine List.pairwise_flatMap.mpr ⟨fun node _ => ?_, tree.pairwise_id_nodes.imp ?_⟩
  · have single := length_reports_le_one rule tree (rule.memoryAt tree node) node
    rw [← List.length_map (f := (node, ·))] at single
    exact List.pairwise_iff_getElem.mpr fun _ _ _ _ _ => by omega
  · intro first second smaller firstVerdict inFirst secondVerdict inSecond
    obtain ⟨_, -, rfl⟩ := List.mem_map.mp inFirst
    obtain ⟨_, -, rfl⟩ := List.mem_map.mp inSecond
    exact smaller

end Rule

/-- About each node an active rule finds its verdicts, whether the table is asked or not. -/
theorem Activation.findingsAt_eq (activation : Activation Rule) (tree : SourceTree) (node : Node) :
    activation.findingsAt tree node =
      (activation.rule.reports tree (activation.rule.memoryAt tree node) node).map
        activation.diagnostic := by
  unfold findingsAt
  split
  · rfl
  · rename_i unwanted
    have silent : activation.rule.reports tree (activation.rule.memoryAt tree node) node = [] := by
      refine List.eq_nil_iff_forall_not_mem.mpr fun report reported => ?_
      exact unwanted (Rule.mem_reports_iff.mp reported).wants
    rw [silent, List.map_nil]

/-- The findings of a rule that has no last word are its verdicts. -/
theorem Linter.emit_register_verdicts {activation : Activation Rule}
    (enabled : activation.isEnabled = true) (tree : SourceTree)
    (ready : ∀ memory, activation.rule.closingReports memory = []) :
    (register [activation]).emit tree =
      (activation.rule.verdicts tree).map fun verdict => activation.diagnostic verdict.2 := by
  rw [emit_register_singleton enabled, Activation.closingFindings,
    Rule.kind_closingReports, ready, List.map_nil,
    List.append_nil, Rule.verdicts, List.map_flatMap]
  refine congrArg (tree.nodes.flatMap ·) (funext fun node => ?_)
  rw [Activation.findingsAt_eq, List.map_map]
  rfl

end ErrorLint
