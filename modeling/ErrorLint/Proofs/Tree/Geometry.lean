/-
This file is about where the nodes of a tree lie in the text. It takes from a grammar only
what every grammar promises: a child lies within its parent, siblings follow each other,
and a throw starts before what it throws. From this it derives what two nodes anywhere in
the tree can have to do with each other: one stands below the other and lies within it, or
they follow each other. The listing in pre-order has the node above in front of the node
below, and the earlier of two that follow each other in front of the later one.
-/

import ErrorLint.Proofs.Text.Cutting
import ErrorLint.Proofs.Tree.Subtree

namespace ErrorLint

/-- A span lies within another one. -/
def Span.Within (inner outer : Span) : Prop :=
  outer.start ≤ inner.start ∧ inner.stop ≤ outer.stop

instance (inner outer : Span) : Decidable (inner.Within outer) :=
  inferInstanceAs (Decidable (_ ∧ _))

theorem Span.Within.refl (span : Span) : span.Within span := ⟨Nat.le_refl _, Nat.le_refl _⟩

theorem Span.Within.trans {inner middle outer : Span} (first : inner.Within middle)
    (second : middle.Within outer) : inner.Within outer :=
  ⟨Nat.le_trans second.1 first.1, Nat.le_trans first.2 second.2⟩

namespace Node

/-- A node is laid out: its children lie within it and follow each other. -/
structure LaidOut (node : Node) : Prop where
  nested : ∀ child ∈ node.children, child.span.Within node.span
  ordered : node.children.Pairwise fun left right => left.span.stop ≤ right.span.start

/-- A node is well placed in a text: it has a valid span, its children lie within it and
follow each other, and if it is a throw, its operand starts strictly after it. -/
structure WellPlaced (text : List Char) (node : Node) : Prop where
  valid : node.span.Valid text
  nested : ∀ child ∈ node.children, child.span.Within node.span
  ordered : node.children.Pairwise fun left right => left.span.stop ≤ right.span.start
  throws : ∀ operand ∈ node.thrown?, node.span.start < operand.span.start

instance (text : List Char) (node : Node) : Decidable (node.WellPlaced text) :=
  decidable_of_iff
    (node.span.Valid text ∧ (∀ child ∈ node.children, child.span.Within node.span) ∧
      (node.children.Pairwise fun left right => left.span.stop ≤ right.span.start) ∧
      ∀ operand ∈ node.thrown?, node.span.start < operand.span.start)
    ⟨fun ⟨valid, nested, ordered, throws⟩ => ⟨valid, nested, ordered, throws⟩,
      fun ⟨valid, nested, ordered, throws⟩ => ⟨valid, nested, ordered, throws⟩⟩

theorem WellPlaced.laidOut {text : List Char} {node : Node} (placed : node.WellPlaced text) :
    node.LaidOut :=
  ⟨placed.nested, placed.ordered⟩

/-- A node stands below another one. -/
def Below (inner outer : Node) : Prop := ∃ child ∈ outer.children, inner ∈ child.subtree

/-- A node comes before another one: it has it below itself, or ends where or before the
other one starts. -/
def Precedes (first second : Node) : Prop :=
  second.Below first ∨ first.span.stop ≤ second.span.start

variable {node inner : Node}

/-- What stands in a subtree lies within its root. -/
theorem within_of_mem_subtree (laidOut : ∀ inner ∈ node.subtree, inner.LaidOut)
    (member : inner ∈ node.subtree) : inner.span.Within node.span := by
  induction node using induction_on_children with
  | step node inductionHypothesis =>
    rcases mem_subtree_iff.mp member with rfl | ⟨child, isChild, inChild⟩
    · exact Span.Within.refl _
    · have laidOutChild : ∀ inner ∈ child.subtree, inner.LaidOut := fun inner inside =>
        laidOut inner (mem_subtree_trans inside (mem_subtree_of_mem_children isChild))
      have nested := (laidOut node (self_mem_subtree node)).nested child isChild
      exact (inductionHypothesis child isChild laidOutChild inChild).trans nested

/-- In a subtree every node precedes all that are listed after it. -/
theorem pairwise_subtree (laidOut : ∀ inner ∈ node.subtree, inner.LaidOut) :
    node.subtree.Pairwise Precedes := by
  induction node using induction_on_children with
  | step node inductionHypothesis =>
    have laidOutBelow : ∀ child ∈ node.children, ∀ inner ∈ child.subtree, inner.LaidOut :=
      fun child isChild inner inside =>
        laidOut inner (mem_subtree_trans inside (mem_subtree_of_mem_children isChild))
    rw [subtree_eq, List.pairwise_cons, List.pairwise_flatMap]
    refine ⟨?_, ?_, ?_⟩
    · intro inner below
      exact Or.inl (List.mem_flatMap.mp below)
    · intro child isChild
      exact inductionHypothesis child isChild (laidOutBelow child isChild)
    · refine (laidOut node (self_mem_subtree node)).ordered.imp_of_mem ?_
      intro left right leftChild rightChild follows first inLeft second inRight
      have leftWithin := within_of_mem_subtree (laidOutBelow left leftChild) inLeft
      have rightWithin := within_of_mem_subtree (laidOutBelow right rightChild) inRight
      exact Or.inr (Nat.le_trans leftWithin.2 (Nat.le_trans follows rightWithin.1))

/-! ### Inside what is thrown -/

section

variable {node operand inner callee : Node} {name : String}

theorem mem_subtree_of_below (throws : node.thrown? = some operand) (below : inner.Below node) :
    inner ∈ operand.subtree := by
  obtain ⟨child, isChild, inside⟩ := below
  rw [children_of_thrown? throws] at isChild
  rwa [List.mem_singleton.mp isChild] at inside

/-- A literal that has a throw inside is a template. -/
theorem shape_of_isLiteralValue (literal : operand.isLiteralValue = true)
    (inside : inner ∈ operand.subtree) (throwing : inner.shape = .throwing) :
    operand.shape = .template := by
  rw [shape_eq] at throwing ⊢
  unfold isLiteralValue at literal
  split at literal
  · rename_i value form
    have leaf : operand.children = [] := by rw [children, form]; rfl
    rw [eq_of_mem_subtree leaf inside, form] at throwing
    cases throwing
  · rename_i substitutions form
    rw [form]
    rfl
  · rename_i operator argument form
    rw [Bool.and_eq_true, decide_eq_true_eq, decide_eq_true_eq] at literal
    rcases mem_subtree_iff.mp inside with rfl | ⟨child, isChild, inChild⟩
    · rw [form] at throwing
      cases throwing
    · rw [children, form] at isChild
      obtain rfl := List.mem_singleton.mp isChild
      have isLiteral := literal.2
      rw [shape_eq] at isLiteral
      have leaf : child.children = [] := by
        rw [children]
        cases childForm : child.form <;> rw [childForm] at isLiteral <;> cases isLiteral
        rfl
      rw [eq_of_mem_subtree leaf inChild, isLiteral] at throwing
      cases throwing
  · cases literal

/-- A throw inside a construction stands in the arguments, behind the name of the class. -/
theorem stop_callee_le {text : List Char}
    (placed : ∀ inner ∈ operand.subtree, inner.WellPlaced text)
    (constructs : operand.directConstructor? = some (callee, name))
    (inside : inner ∈ operand.subtree) (throwing : inner.shape = .throwing) :
    callee.span.stop ≤ inner.span.start := by
  obtain ⟨arguments, form, named⟩ := directConstructor?_eq_some constructs
  have isChildren : operand.children = callee :: arguments := by rw [children, form]; rfl
  have ordered := (placed operand (self_mem_subtree operand)).ordered
  rw [isChildren, List.pairwise_cons] at ordered
  rw [shape_eq] at throwing
  rcases mem_subtree_iff.mp inside with rfl | ⟨child, isChild, inChild⟩
  · rw [form] at throwing
    cases throwing
  · have laidOutChild : ∀ inner ∈ child.subtree, inner.LaidOut := fun inner below =>
      (placed inner (mem_subtree_trans below (mem_subtree_of_mem_children isChild))).laidOut
    rw [isChildren] at isChild
    rcases List.mem_cons.mp isChild with rfl | isArgument
    · have leaf : child.children = [] := by rw [children, named]; rfl
      rw [eq_of_mem_subtree leaf inChild, named] at throwing
      cases throwing
    · exact Nat.le_trans (ordered.1 child isArgument)
        (within_of_mem_subtree laidOutChild inChild).1

end

end Node

namespace SourceTree

/-- All nodes of a tree are well placed in its source. -/
def WellFormed (tree : SourceTree) : Prop :=
  ∀ node ∈ tree.nodes, node.WellPlaced tree.source.toList

instance (tree : SourceTree) : Decidable tree.WellFormed :=
  inferInstanceAs (Decidable (∀ node ∈ tree.nodes, node.WellPlaced tree.source.toList))

namespace WellFormed

variable {tree : SourceTree}

theorem within (wellFormed : tree.WellFormed) {node inner : Node} (inTree : node ∈ tree.nodes)
    (inside : inner ∈ node.subtree) : inner.span.Within node.span :=
  Node.within_of_mem_subtree
    (fun other below => (wellFormed other (mem_nodes_of_mem_subtree inTree below)).laidOut) inside

theorem pairwise_nodes (wellFormed : tree.WellFormed) : tree.nodes.Pairwise Node.Precedes := by
  rw [nodes_eq]
  exact Node.pairwise_subtree fun inner inTree => (wellFormed inner inTree).laidOut

/-- Of two nodes of a tree one precedes the other. -/
theorem precedes_or (wellFormed : tree.WellFormed) {first second : Node}
    (firstInTree : first ∈ tree.nodes) (secondInTree : second ∈ tree.nodes) :
    first = second ∨ first.Precedes second ∨ second.Precedes first := by
  have inOrder := wellFormed.pairwise_nodes
  exact List.Pairwise.forall_of_forall_of_flip
    (R := fun first second => first = second ∨ first.Precedes second ∨ second.Precedes first)
    (fun _ _ => Or.inl rfl) (inOrder.imp fun before => Or.inr (Or.inl before))
    (inOrder.imp fun before => Or.inr (Or.inr before)) firstInTree secondInTree

end WellFormed

end SourceTree

end ErrorLint
