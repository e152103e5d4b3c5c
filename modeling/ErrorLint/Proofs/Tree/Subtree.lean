/-
This file lists what stands below a node, for concrete trees and for lowered ones, and
gives the induction that goes with it. A listing in pre-order is a node followed by the
listings of its children, so a fact about all nodes of a tree is a fact about a node
that is handed down from parents to children.

The lowered tree keeps no parent links and no table: a numbered node is a term with a
number, and the numbers of its children follow from the sizes of the terms in front of
them. That this numbering is the one of the pre-order is what `subtree_eq` says, and it
is the only place where the thirteen forms are told apart.
-/

import ErrorLint.Rule.Matching
import ErrorLint.Tree.Concrete
import ErrorLint.Tree.Term

namespace ErrorLint

/-! ### Concrete trees -/

namespace Concrete

mutual

/-- The tree and all trees below it, every tree before its descendants. -/
def nodes : Concrete → List Concrete
  | node label children => node label children :: nodesOf children

/-- The nodes of several trees, one tree after the other. -/
def nodesOf : List Concrete → List Concrete
  | [] => []
  | tree :: rest => nodes tree ++ nodesOf rest

end

theorem nodesOf_eq (trees : List Concrete) : nodesOf trees = trees.flatMap nodes := by
  induction trees with
  | nil => rfl
  | cons tree rest inductionHypothesis =>
    rw [nodesOf, inductionHypothesis, List.flatMap_cons]

theorem nodes_eq (tree : Concrete) : tree.nodes = tree :: tree.children.flatMap nodes := by
  obtain ⟨label, children⟩ := tree
  rw [nodes, nodesOf_eq]
  rfl

theorem self_mem_nodes (tree : Concrete) : tree ∈ tree.nodes := by
  rw [nodes_eq]
  exact List.mem_cons_self

/-- The nodes of a child are nodes of its parent. -/
theorem mem_nodes_of_mem_children {inner child tree : Concrete} (isChild : child ∈ tree.children)
    (member : inner ∈ child.nodes) : inner ∈ tree.nodes := by
  rw [nodes_eq]
  exact List.mem_cons_of_mem _ (List.mem_flatMap.mpr ⟨child, isChild, member⟩)

/-- The nodes of a node of a tree are nodes of the tree. -/
theorem mem_nodes_trans {inner middle tree : Concrete} (inMiddle : inner ∈ middle.nodes)
    (inTree : middle ∈ tree.nodes) : inner ∈ tree.nodes := by
  induction bound : tree.size using Nat.strongRecOn generalizing tree with
  | ind size inductionHypothesis =>
    subst bound
    rw [nodes_eq] at inTree
    rcases List.mem_cons.mp inTree with rfl | below
    · exact inMiddle
    · obtain ⟨child, isChild, inChild⟩ := List.mem_flatMap.mp below
      exact mem_nodes_of_mem_children isChild
        (inductionHypothesis child.size (size_lt_of_mem_children isChild) inChild rfl)

end Concrete

/-! ### Terms -/

namespace Term

theorem sizeAll_append (left right : List Term) :
    sizeAll (left ++ right) = sizeAll left + sizeAll right := by
  induction left with
  | nil => exact (Nat.zero_add _).symm
  | cons term rest inductionHypothesis =>
    rw [List.cons_append, sizeAll, inductionHypothesis, sizeAll, Nat.add_assoc]

theorem sizeOption_eq (term : Option Term) : sizeOption term = sizeAll term.toList := by
  cases term <;> rfl

theorem sizeBelow_eq (form : Form Term) : sizeBelow form = sizeAll form.children := by
  cases form with
  | classDeclaration name superclass body =>
    simp only [sizeBelow, Form.children, sizeAll_append, sizeOption_eq]
  | throwing argument => exact sizeOption_eq argument
  | _ => rfl

theorem size_le_sizeAll {term : Term} {terms : List Term} (member : term ∈ terms) :
    term.size ≤ sizeAll terms := by
  induction terms with
  | nil => cases member
  | cons head rest inductionHypothesis =>
    rw [sizeAll]
    rcases List.mem_cons.mp member with rfl | inRest
    · exact Nat.le_add_right _ _
    · exact Nat.le_trans (inductionHypothesis inRest) (Nat.le_add_left _ _)

theorem preorderAll_eq (terms : List Term) : preorderAll terms = terms.flatMap preorder := by
  induction terms with
  | nil => rfl
  | cons term rest inductionHypothesis =>
    rw [preorderAll, inductionHypothesis, List.flatMap_cons]

theorem preorderOption_eq (term : Option Term) :
    preorderOption term = term.toList.flatMap preorder := by
  cases term <;> simp [preorderOption]

theorem preorderBelow_eq (form : Form Term) :
    preorderBelow form = form.children.flatMap preorder := by
  cases form <;>
    simp [preorderBelow, Form.children, preorderAll_eq, preorderOption_eq]

theorem preorder_eq (term : Term) :
    term.preorder = term :: term.form.children.flatMap preorder := by
  obtain ⟨place, form⟩ := term
  rw [preorder, preorderBelow_eq]
  rfl

theorem size_lt_of_mem_children {child term : Term} (isChild : child ∈ term.form.children) :
    child.size < term.size := by
  obtain ⟨place, form⟩ := term
  rw [size, sizeBelow_eq]
  exact Nat.lt_succ_of_le (size_le_sizeAll isChild)

theorem length_flatMap_preorder {terms : List Term}
    (lengths : ∀ term ∈ terms, term.preorder.length = term.size) :
    (terms.flatMap preorder).length = sizeAll terms := by
  induction terms with
  | nil => rfl
  | cons term rest inductionHypothesis =>
    rw [List.flatMap_cons, List.length_append, lengths term List.mem_cons_self,
      inductionHypothesis fun other inRest => lengths other (List.mem_cons_of_mem _ inRest),
      sizeAll]

theorem length_preorder (term : Term) : term.preorder.length = term.size := by
  induction bound : term.size using Nat.strongRecOn generalizing term with
  | ind size inductionHypothesis =>
    subst bound
    have children : ∀ child ∈ term.form.children, child.preorder.length = child.size :=
      fun child isChild =>
        inductionHypothesis child.size (size_lt_of_mem_children isChild) child rfl
    obtain ⟨place, form⟩ := term
    rw [preorder_eq, List.length_cons, length_flatMap_preorder children, size, sizeBelow_eq]
    rfl

end Term

/-! ### Numbered nodes -/

namespace Node

/-- The node and all nodes below it, in the order of their numbers. -/
def subtree (node : Node) : List Node :=
  (node.term.preorder.zipIdx node.id).map fun (term, id) => ⟨id, term⟩

theorem numbered_append (next : Nat) (left right : List Term) :
    numbered next (left ++ right) =
      numbered next left ++ numbered (next + Term.sizeAll left) right := by
  induction left generalizing next with
  | nil => rfl
  | cons term rest inductionHypothesis =>
    rw [List.cons_append, numbered, inductionHypothesis, numbered, Term.sizeAll, Nat.add_assoc,
      List.cons_append]

theorem numbered_toList (next : Nat) (term : Option Term) :
    numbered next term.toList = (term.map (⟨next, ·⟩ : Term → Node)).toList := by
  cases term <;> rfl

/-- The children of a node are the children of its term, numbered one after the other. -/
theorem children_eq (node : Node) :
    node.children = numbered (node.id + 1) node.term.form.children := by
  unfold children form
  split <;> rename_i equal <;> rw [equal] <;>
    simp [Form.children, numbered, numbered_append, numbered_toList, Term.sizeOption_eq]

theorem flatMap_subtree_numbered (next : Nat) (terms : List Term) :
    (numbered next terms).flatMap subtree =
      ((terms.flatMap Term.preorder).zipIdx next).map fun (term, id) => ⟨id, term⟩ := by
  induction terms generalizing next with
  | nil => rfl
  | cons term rest inductionHypothesis =>
    rw [numbered, List.flatMap_cons, inductionHypothesis, List.flatMap_cons, List.zipIdx_append,
      List.map_append, Term.length_preorder, subtree]

/-- The nodes of a subtree are its root and the nodes of the subtrees of its children. -/
theorem subtree_eq (node : Node) : node.subtree = node :: node.children.flatMap subtree := by
  rw [children_eq, flatMap_subtree_numbered, subtree, Term.preorder_eq]
  rfl

theorem self_mem_subtree (node : Node) : node ∈ node.subtree := by
  rw [subtree_eq]
  exact List.mem_cons_self

theorem mem_subtree_iff {inner node : Node} :
    inner ∈ node.subtree ↔ inner = node ∨ ∃ child ∈ node.children, inner ∈ child.subtree := by
  rw [subtree_eq, List.mem_cons, List.mem_flatMap]

/-- A node without children is alone in its subtree. -/
theorem eq_of_mem_subtree {inner node : Node} (leaf : node.children = [])
    (member : inner ∈ node.subtree) : inner = node := by
  rw [subtree_eq, leaf] at member
  exact List.mem_singleton.mp member

/-- What is handed down from all children to their parent holds of every node. -/
theorem induction_on_children {motive : Node → Prop}
    (step : ∀ node, (∀ child ∈ node.children, motive child) → motive node) (node : Node) :
    motive node := by
  induction bound : node.term.size using Nat.strongRecOn generalizing node with
  | ind size inductionHypothesis =>
    subst bound
    refine step node fun child isChild => ?_
    have isChildTerm : child.term ∈ node.term.form.children := by
      rw [children_eq] at isChild
      rw [← map_numbered (node.id + 1) node.term.form.children]
      exact List.mem_map_of_mem isChild
    exact inductionHypothesis child.term.size (Term.size_lt_of_mem_children isChildTerm) child rfl

/-- A subtree of a subtree is part of it. -/
theorem mem_subtree_trans {inner middle node : Node} (inMiddle : inner ∈ middle.subtree)
    (inNode : middle ∈ node.subtree) : inner ∈ node.subtree := by
  induction node using induction_on_children with
  | step node inductionHypothesis =>
    rcases mem_subtree_iff.mp inNode with rfl | ⟨child, isChild, inChild⟩
    · exact inMiddle
    · exact mem_subtree_iff.mpr (Or.inr ⟨child, isChild, inductionHypothesis child isChild inChild⟩)

theorem mem_subtree_of_mem_children {child node : Node} (isChild : child ∈ node.children) :
    child ∈ node.subtree :=
  mem_subtree_iff.mpr (Or.inr ⟨child, isChild, self_mem_subtree child⟩)

/-! ### The parts that rules look at -/

theorem children_of_thrown? {node operand : Node} (throws : node.thrown? = some operand) :
    node.children = [operand] := by
  unfold thrown? at throws
  unfold children
  split at throws
  · rename_i argument equal
    rw [equal, throws]
    rfl
  · cases throws

theorem mem_children_of_thrown? {node operand : Node} (throws : node.thrown? = some operand) :
    operand ∈ node.children := by
  rw [children_of_thrown? throws]
  exact List.mem_singleton_self operand

theorem shape_eq (node : Node) : node.shape = node.form.shape := by
  rw [shape, ← map_form, Form.shape_map]

theorem shape_of_thrown? {node operand : Node} (throws : node.thrown? = some operand) :
    node.shape = .throwing := by
  rw [shape_eq]
  unfold thrown? at throws
  split at throws
  · rename_i argument equal
    rw [equal]
    rfl
  · cases throws

/-- A construction has its callee in front of its arguments, and the callee is a name. -/
theorem directConstructor?_eq_some {node callee : Node} {name : String}
    (constructs : node.directConstructor? = some (callee, name)) :
    ∃ arguments, node.form = .construction callee arguments ∧ callee.form = .identifier name := by
  unfold directConstructor? at constructs
  split at constructs
  · rename_i found arguments equal
    obtain ⟨_, named, same⟩ := Option.map_eq_some_iff.mp constructs
    simp only [Prod.mk.injEq] at same
    obtain ⟨rfl, rfl⟩ := same
    refine ⟨arguments, equal, ?_⟩
    unfold identifierName? at named
    split at named
    · rename_i name' isName
      rw [isName, Option.some.inj named]
    · cases named
  · cases constructs

theorem thrown?_eq_some_iff {node operand : Node} :
    node.thrown? = some operand ↔ node.form = .throwing (some operand) := by
  unfold thrown?
  split
  · rename_i argument equal
    rw [equal, Form.throwing.injEq]
  · rename_i notThrow
    exact iff_of_false (fun none => nomatch none) (notThrow _)

theorem directConstructor?_eq_some_iff {node callee : Node} {name : String} :
    node.directConstructor? = some (callee, name) ↔
      ∃ arguments, node.form = .construction callee arguments ∧
        callee.form = .identifier name := by
  refine ⟨directConstructor?_eq_some, ?_⟩
  rintro ⟨arguments, constructs, named⟩
  simp only [directConstructor?, constructs, identifierName?, named, Option.map_some]

theorem identifierName?_eq_some_iff {node : Node} {name : String} :
    node.identifierName? = some name ↔ node.form = .identifier name := by
  unfold identifierName?
  split
  · rename_i found equal
    rw [equal, Option.some.injEq, Form.identifier.injEq]
  · rename_i notName
    exact iff_of_false (fun none => nomatch none) (notName _)

theorem stringValue?_eq_some_iff {node : Node} {value : String} :
    node.stringValue? = some value ↔ node.form = .literal (.string value) := by
  unfold stringValue?
  split
  · rename_i found equal
    rw [equal, Option.some.injEq, Form.literal.injEq, Literal.string.injEq]
  · rename_i notText
    exact iff_of_false (fun none => nomatch none) (notText _)

theorem callee_mem_children {node callee : Node} {name : String}
    (constructs : node.directConstructor? = some (callee, name)) : callee ∈ node.children := by
  obtain ⟨arguments, form, -⟩ := directConstructor?_eq_some constructs
  rw [children, form]
  exact List.mem_cons_self

end Node

namespace SourceTree

theorem nodes_eq (tree : SourceTree) : tree.nodes = Node.subtree ⟨0, tree.root⟩ := rfl

/-- What stands below a node of the tree is a node of the tree. -/
theorem mem_nodes_of_mem_subtree {tree : SourceTree} {inner node : Node}
    (member : node ∈ tree.nodes) (inside : inner ∈ node.subtree) : inner ∈ tree.nodes := by
  rw [nodes_eq] at member ⊢
  exact Node.mem_subtree_trans inside member

theorem mem_nodes_of_mem_children {tree : SourceTree} {child node : Node}
    (member : node ∈ tree.nodes) (isChild : child ∈ node.children) : child ∈ tree.nodes :=
  mem_nodes_of_mem_subtree member (Node.mem_subtree_of_mem_children isChild)

theorem mem_nodes_of_thrown? {tree : SourceTree} {node operand : Node}
    (member : node ∈ tree.nodes) (throws : node.thrown? = some operand) : operand ∈ tree.nodes :=
  mem_nodes_of_mem_children member (Node.mem_children_of_thrown? throws)

theorem term_mem_preorder {tree : SourceTree} {node : Node} (member : node ∈ tree.nodes) :
    node.term ∈ tree.root.preorder := by
  obtain ⟨⟨term, id⟩, inIndexed, rfl⟩ := List.mem_map.mp member
  exact (List.mem_zipIdx' inIndexed).2 ▸ List.getElem_mem _

end SourceTree

end ErrorLint
