/-
This file shows that lowering with a stack fills the table of the term to which the tree is
lowered. The work of the stack between opening a node and closing it concerns that node
only: whatever waits below on the stack is told one number, and the table grows by the rows
of the node and of what stands below it. Between the two, the row of the node holds a form
that stands in for its own, and so does the row of every node that is open; since each of
them is closed in the end, and each outline finds the children that it needs, no such form
is left.
-/

import ErrorLint.Proofs.Tree.Provenance
import ErrorLint.Proofs.Tree.Table

namespace ErrorLint

/-! ### Outlines and forms -/

namespace Lowering

theorem outlineOf_map {α β : Type} (f : α → β) (form : Form α) :
    outlineOf (form.map f) = outlineOf form := by
  cases form <;> simp [outlineOf, Form.map]

/-- Assembling puts every child back into its role. The children of a class are told apart
by which of them are there. -/
theorem assemble_outlineOf {α : Type} (standIns : StandIns) (f : α → Nat) (form : Form α) :
    (outlineOf form).assemble standIns (form.children.map f) = form.map f := by
  cases form with
  | throwing argument => cases argument <;> rfl
  | classDeclaration name superclass body =>
    cases name <;> cases superclass <;> cases body <;> rfl
  | _ => rfl

/-- A lowered node has the outline that was planned for it. -/
theorem outlineOf_form {text : List Char} {tree : Concrete} {node : Node}
    (lowered : node.term = lower text tree) :
    outlineOf node.form = (outline text tree.unwrap).1 := by
  rw [outline_eq, ← outlineOf_map (lower text) (plan text tree.unwrap),
    ← outlineOf_map Node.term node.form, Node.map_form, lowered, lower_eq]
  rfl

/-- The outline of a node, over the numbers of its lowered children, gives its form. -/
theorem assemble_outline (standIns : StandIns) (text : List Char) (tree : Concrete) (node : Node)
    (lowered : node.term = lower text tree) :
    (outline text tree.unwrap).1.assemble standIns (node.children.map Node.id) =
      node.form.map Node.id := by
  rw [← outlineOf_form lowered]
  exact assemble_outlineOf standIns Node.id node.form

/-- The children of a lowered node are the lowered nodes of its outline. -/
theorem children_of_outline (text : List Char) (tree : Concrete) (id : Nat) :
    (Node.mk id (lower text tree)).children =
      Node.numbered (id + 1) ((outline text tree.unwrap).2.map (lower text)) := by
  rw [Node.children_eq, outline_eq, lower_eq, ← Form.children_map]
  rfl

end Lowering

namespace Arena

/-! ### Working off the stack -/

/-- The table with more rows at its end. -/
def extend (arena : Arena) (entries : List (Nat × Row)) : Arena :=
  ⟨arena.rows ++ (entries.map Prod.snd).toArray⟩

theorem extend_nil (arena : Arena) : arena.extend [] = arena := by
  simp [extend]

theorem extend_extend (arena : Arena) (first second : List (Nat × Row)) :
    (arena.extend first).extend second = arena.extend (first ++ second) := by
  simp [extend]

@[simp]
theorem size_alloc (arena : Arena) (place : Place) (parent : Option Nat) (form : Form Nat) :
    (arena.alloc place parent form).rows.size = arena.rows.size + 1 :=
  Array.size_push _

theorem size_extend_entries (arena : Arena) (parent : Option Nat) (node : Node) :
    (arena.extend (node.entries parent)).rows.size = arena.rows.size + node.term.size := by
  have count := congrArg List.length (Node.map_fst_entries parent node)
  rw [List.length_map, List.length_range'] at count
  simp [extend, count]

theorem modify_length_append {α : Type} (f : α → α) (front back : List α) (item : α) :
    (front ++ item :: back).modify front.length f = front ++ f item :: back := by
  induction front with
  | nil => rfl
  | cons first rest inductionHypothesis =>
    rw [List.cons_append, List.length_cons, List.modify_succ_cons, inductionHypothesis,
      List.cons_append]

/-- Closing a node whose rows below are filled gives all its rows. -/
theorem setForm_alloc_extend (arena : Arena) (parent : Option Nat) (unfinished : Form Nat)
    (node : Node) (next : node.id = arena.rows.size) :
    ((arena.alloc node.place parent unfinished).extend
        (node.children.flatMap (Node.entries (some node.id)))).setForm node.id
          (node.form.map Node.id) =
      arena.extend (node.entries parent) := by
  rw [Node.entries_eq, extend, setForm, alloc, extend]
  congr 1
  apply Array.toList_inj.mp
  simp only [Array.toList_modify, Array.toList_append, Array.toList_push, List.append_assoc,
    List.singleton_append, List.map_cons]
  rw [next, ← Array.length_toList, modify_length_append]
  rfl

/-- Opening a node and working off the stack until it is closed adds its rows to the table,
and tells the frame below its number. -/
def Settles (standIns : StandIns) (text : List Char) (tree : Concrete) : Prop :=
  ∀ (arena : Arena) (parent : Option Nat) (rest : List Frame),
    run standIns text ((openNode standIns text arena tree parent).1 :: rest)
        (openNode standIns text arena tree parent).2 =
      run standIns text (report arena.rows.size rest)
        (arena.extend (Node.entries parent ⟨arena.rows.size, Lowering.lower text tree⟩))

/-- A frame whose children settle ends up with their numbers, and the table with their
rows. -/
theorem run_pending {standIns : StandIns} {text : List Char} {pending : List Concrete}
    (settle : ∀ child ∈ pending, Settles standIns text child) (id : Nat) (outline : Outline)
    (lowered : Array Nat) (rest : List Frame) (arena : Arena) :
    run standIns text (⟨id, outline, pending, lowered⟩ :: rest) arena =
      run standIns text (⟨id, outline, [], lowered ++ ((Node.numbered arena.rows.size
          (pending.map (Lowering.lower text))).map Node.id).toArray⟩ :: rest)
        (arena.extend ((Node.numbered arena.rows.size
          (pending.map (Lowering.lower text))).flatMap (Node.entries (some id)))) := by
  induction pending generalizing arena lowered with
  | nil => simp [Node.numbered, extend_nil]
  | cons child later inductionHypothesis =>
    have settleLater : ∀ other ∈ later, Settles standIns text other :=
      fun other inLater => settle other (List.mem_cons_of_mem _ inLater)
    rw [run, settle child List.mem_cons_self, report, inductionHypothesis settleLater,
      size_extend_entries, extend_extend, List.map_cons, Node.numbered, List.map_cons,
      List.flatMap_cons]
    simp

/-- Every node settles. -/
theorem settles (standIns : StandIns) (text : List Char) (tree : Concrete) :
    Settles standIns text tree := by
  induction bound : tree.size using Nat.strongRecOn generalizing tree with
  | ind size inductionHypothesis =>
    subst bound
    intro arena parent rest
    have settleBelow : ∀ child ∈ (Lowering.outline text tree.unwrap).2,
        Settles standIns text child := by
      intro child isChild
      have smaller := Lowering.size_lt_of_mem_outline isChild
      exact inductionHypothesis child.size
        (Nat.lt_of_lt_of_le smaller (Concrete.size_unwrap_le tree)) child rfl
    have place : tree.unwrap.place = (Lowering.lower text tree).place := by
      rw [Lowering.lower_eq]
      rfl
    simp only [openNode]
    rw [run_pending settleBelow, size_alloc, ← Lowering.children_of_outline, run,
      Array.toList_append, List.nil_append,
      Lowering.assemble_outline standIns text tree ⟨arena.rows.size, _⟩ rfl, place]
    exact congrArg _ (setForm_alloc_extend arena parent standIns.unfinished
      ⟨arena.rows.size, Lowering.lower text tree⟩ rfl)

/-- The stack fills the table of the lowered tree, whatever stands in on the way. -/
theorem lowerWith_eq (standIns : StandIns) (text : List Char) (tree : Concrete) :
    lowerWith standIns text tree = ofTerm (Lowering.lower text tree) := by
  rw [lowerWith, settles standIns text tree empty none [], report, run]
  simp [extend, empty, ofTerm]

/-! ### The table of a concrete tree -/

/-- Every row is that of a concrete node, and has the shape and the children that are planned
for the node. -/
theorem exists_plan_of_mem_rows {text : List Char} {tree : Concrete} {row : Row}
    (member : row ∈ (ofTerm (Lowering.lower text tree)).rows) :
    ∃ node ∈ tree.nodes, row.place = node.place ∧
      row.form.shape = (Lowering.plan text node).shape ∧
      row.form.children.length = (Lowering.plan text node).children.length := by
  obtain ⟨node, inTree, parent, rfl⟩ := exists_node_of_mem_rows member
  have inPreorder : node.term ∈ (Lowering.lower text tree).preorder :=
    @SourceTree.term_mem_preorder ⟨"", Lowering.lower text tree, false⟩ node inTree
  obtain ⟨origin, inConcrete, lowered⟩ := Lowering.exists_node_of_mem_preorder inPreorder
  rw [Lowering.lower_eq] at lowered
  have form : node.form.map Node.term =
      (Lowering.plan text origin.unwrap).map (Lowering.lower text) := by
    rw [Node.map_form, lowered]
    rfl
  refine ⟨origin.unwrap, Concrete.mem_nodes_trans (Concrete.unwrap_mem_nodes origin) inConcrete,
    ?_, ?_, ?_⟩
  · show node.term.place = _
    rw [lowered]
    rfl
  · rw [Node.row, Form.shape_map, ← Form.shape_map Node.term, form, Form.shape_map]
  · have count := congrArg (·.children.length) form
    simpa only [Node.row, Form.children_map, List.length_map] using count

/-- The table of a source text lists the rows of its tree. -/
theorem toList_rows_ofSource (parser : Parser) (source : String) (dialect : Dialect) :
    (ofSource parser source dialect).rows.toList =
      (SourceTree.ofSource parser source dialect).rows := by
  rw [SourceTree.rows_eq, ofSource, lower, lowerWith_eq]
  rfl

/-- Lowering a concrete tree gives a table whose links are in order. No row keeps a form that
stands in for another one, or else the table would depend on those forms; and every row has
the shape, and as many children, as are planned for its concrete node. -/
theorem wellLinked_lower (text : List Char) (tree : Concrete) :
    (lower text tree).WellLinked ∧
      (∀ standIns, lowerWith standIns text tree = lower text tree) ∧
      ∀ row ∈ (lower text tree).rows, ∃ node ∈ tree.nodes,
        row.place = node.place ∧
          row.form.shape = (Lowering.plan text node).shape ∧
          row.form.children.length = (Lowering.plan text node).children.length := by
  have table : lower text tree = ofTerm (Lowering.lower text tree) := lowerWith_eq _ text tree
  refine ⟨?_, ?_, ?_⟩
  · rw [table]
    exact wellLinked_ofTerm _
  · intro standIns
    rw [table]
    exact lowerWith_eq standIns text tree
  · intro row member
    rw [table] at member
    exact exists_plan_of_mem_rows member

end Arena

end ErrorLint
