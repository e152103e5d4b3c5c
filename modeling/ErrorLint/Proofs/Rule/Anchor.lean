/-
This file says where findings stand. A rule is shown a node and reports something about it,
and the place that it gives is always the place of a node: of what is thrown, of the class
that is constructed, of the first argument, of the name of a class. All these are below the
node that the rule is shown. The rule about repeated messages reports at the end of the walk,
at places that it has kept from nodes on the way. So the place of every finding is that of a
node of the tree, and whatever is known of the places of nodes is known of those of findings.
-/

import ErrorLint.Proofs.Rule.Repetition

namespace ErrorLint

namespace Node

theorem firstArgument?_mem_children {node argument : Node}
    (first : node.firstArgument? = some argument) : argument ∈ node.children := by
  unfold firstArgument? at first
  unfold children
  split at first
  · rename_i callee arguments form
    rw [form]
    exact List.mem_cons_of_mem _ (List.mem_of_mem_head? first)
  · rename_i callee arguments form
    rw [form]
    exact List.mem_cons_of_mem _ (List.mem_of_mem_head? first)
  · cases first

theorem thrown?_mem_subtree {node operand : Node} (throws : node.thrown? = some operand) :
    operand ∈ node.subtree :=
  mem_subtree_of_mem_children (mem_children_of_thrown? throws)

theorem callee_mem_subtree {node callee : Node} {name : String}
    (constructs : node.directConstructor? = some (callee, name)) : callee ∈ node.subtree :=
  mem_subtree_of_mem_children (callee_mem_children constructs)

end Node

/-! ### Reports about a node -/

/-- A report is anchored in a node: its place is that of a node of the subtree. -/
def Report.AnchoredIn (node : Node) (report : Report) : Prop :=
  ∃ inner ∈ node.subtree, report.place = inner.place

/-- What a rule says about a node is anchored in the node. -/
theorem Rule.anchoredIn_of_mem_reports {rule : Rule} {tree : SourceTree} {memory : Memory}
    {node : Node} {report : Report} (member : report ∈ rule.reports tree memory node) :
    report.AnchoredIn node := by
  cases mem_reports_iff.mp member with
  | throwsUndefined operand throws | throwsLiteral operand throws | throwsObject operand throws
  | throwsUnknown operand throws | throwsGeneric operand _ throws
  | throwsNameable operand _ _ throws | throwsBase operand _ _ throws =>
    exact ⟨operand, Node.thrown?_mem_subtree throws, rfl⟩
  | throwsUnmarked operand callee _ throws constructs =>
    have inOperand := Node.callee_mem_subtree constructs
    exact ⟨callee, Node.mem_subtree_trans inOperand (Node.thrown?_mem_subtree throws), rfl⟩
  | declaresStray name _ _ declares =>
    have isChild : name ∈ node.children := by
      rw [Node.children, declares]
      exact List.mem_cons_self
    exact ⟨name, Node.mem_subtree_of_mem_children isChild, rfl⟩
  | passesLiteral _ _ argument _ _ first | passesTemplate _ argument _ _ first =>
    have isChild := Node.firstArgument?_mem_children first
    exact ⟨argument, Node.mem_subtree_of_mem_children isChild, rfl⟩

/-! ### The last word of a rule -/

namespace RequireHardcodedErrorMessage

/-- A throw that counts has its message in the tree. -/
theorem Qualifies.exists_place {options : Options} {tree : SourceTree} {node : Node} {use : Use}
    (qualifies : Qualifies options tree node use) (inTree : node ∈ tree.nodes) :
    ∃ argument ∈ tree.nodes, use.place = argument.place := by
  obtain ⟨operand, callee, argument, rest, throws, constructs, -, -, place⟩ := qualifies.throws
  have first : operand.firstArgument? = some argument := by
    rw [Node.firstArgument?, constructs]
    rfl
  have operandInTree := SourceTree.mem_nodes_of_thrown? inTree
    (Node.thrown?_eq_some_iff.mpr throws)
  exact ⟨argument, SourceTree.mem_nodes_of_mem_children operandInTree
    (Node.firstArgument?_mem_children first), place.symm⟩

end RequireHardcodedErrorMessage

namespace Activation

open RequireHardcodedErrorMessage

/-- What a rule says after the whole tree is about throws that are repeated. -/
theorem exists_repetition_of_mem_closingFindings {activation : Activation Rule} {tree : SourceTree}
    {diagnostic : Diagnostic} (member : diagnostic ∈ activation.closingFindings tree) :
    ∃ options, activation.rule = .requireHardcodedErrorMessage options ∧
      ∃ node use, node ∈ tree.nodes ∧ Qualifies options tree node use ∧
        diagnostic = activation.diagnostic
          (repetition use (throwCount options tree use.errorClass use.message)) := by
  obtain ⟨report, reported, rfl⟩ := List.mem_map.mp member
  obtain ⟨rule, severity⟩ := activation
  cases rule with
  | requireHardcodedErrorMessage options =>
    rw [closingReports_memoryOf] at reported
    obtain ⟨⟨node, use⟩, repeated, rfl⟩ := List.mem_map.mp reported
    obtain ⟨⟨inTree, qualifies⟩, -⟩ := mem_repeatedThrows.mp repeated
    exact ⟨options, rfl, node, use, inTree, qualifies, rfl⟩
  | _ => cases reported

end Activation

namespace Linter

/-- Every finding has the place of a node. -/
theorem IsBuilt.exists_place_of_mem_emit {linter : Linter Rule} (built : linter.IsBuilt)
    {tree : SourceTree} {diagnostic : Diagnostic} (member : diagnostic ∈ linter.emit tree) :
    ∃ node ∈ tree.nodes, diagnostic.place = node.place := by
  rw [built.emit_eq] at member
  rcases List.mem_append.mp member with during | after
  · obtain ⟨node, inTree, found⟩ := List.mem_flatMap.mp during
    obtain ⟨activation, -, found⟩ := List.mem_flatMap.mp found
    obtain ⟨memory, report, reported, rfl⟩ := Activation.exists_report_of_mem_findingsAt found
    obtain ⟨inner, inside, place⟩ := Rule.anchoredIn_of_mem_reports reported
    exact ⟨inner, SourceTree.mem_nodes_of_mem_subtree inTree inside, place⟩
  · obtain ⟨activation, -, closing⟩ := List.mem_flatMap.mp after
    obtain ⟨options, -, node, use, inTree, qualifies, rfl⟩ :=
      Activation.exists_repetition_of_mem_closingFindings closing
    exact qualifies.exists_place inTree

end Linter

end ErrorLint
