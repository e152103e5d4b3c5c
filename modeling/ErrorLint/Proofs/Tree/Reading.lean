/-
This file reads a table back as a tree. Reading starts at a node, takes the form that its
row holds, and puts in place of every number what is read there; a child is looked for
behind its parent only, so that reading comes to an end in any table. What is read at the
first row of a table that a stack has filled is the term that plain recursion gives: each
node is lowered with the roles of its form filled by the lowered nodes that are planned for
them.
-/

import ErrorLint.Proofs.Tree.Stack

namespace ErrorLint

namespace Form

variable {α β γ : Type}

/-- Replaces every child, if all of them can be replaced. -/
def mapOption (f : α → Option β) : Form α → Option (Form β)
  | program body => (body.mapM f).map program
  | throwing none => some (throwing none)
  | throwing (some argument) => (f argument).map fun found => throwing (some found)
  | construction callee arguments => do return construction (← f callee) (← arguments.mapM f)
  | call callee arguments => do return call (← f callee) (← arguments.mapM f)
  | literal value => some (literal value)
  | template substitutions => (substitutions.mapM f).map template
  | identifier name => some (identifier name)
  | unary operator argument => (f argument).map (unary operator)
  | member owner property => (f owner).map (member · property)
  | object properties => (properties.mapM f).map object
  | classDeclaration name superclass body => do
    return classDeclaration (← name.mapM f) (← superclass.mapM f) (← body.mapM f)
  | importDeclaration bindings source => some (importDeclaration bindings source)
  | other symbol children => (children.mapM f).map (other symbol)

theorem mapM_map_eq_some {f : β → Option γ} {g : α → β} {h : α → γ} {list : List α}
    (agree : ∀ item ∈ list, f (g item) = some (h item)) :
    (list.map g).mapM f = some (list.map h) := by
  induction list with
  | nil => rfl
  | cons item rest inductionHypothesis =>
    rw [List.map_cons, List.mapM_cons, agree item List.mem_cons_self,
      inductionHypothesis fun other inRest => agree other (List.mem_cons_of_mem _ inRest)]
    rfl

theorem option_mapM_map_eq_some {f : β → Option γ} {g : α → β} {h : α → γ} {option : Option α}
    (agree : ∀ item ∈ option.toList, f (g item) = some (h item)) :
    (option.map g).mapM f = some (option.map h) := by
  cases option with
  | none => rfl
  | some item =>
    show some <$> f (g item) = some (some (h item))
    rw [agree item List.mem_cons_self]
    rfl

/-- Replacing the children of a form succeeds if each of them can be replaced. -/
theorem mapOption_map {f : β → Option γ} {g : α → β} {h : α → γ} {form : Form α}
    (agree : ∀ child ∈ form.children, f (g child) = some (h child)) :
    (form.map g).mapOption f = some (form.map h) := by
  cases form with
  | program list | template list | object list | other symbol list =>
    have all : (list.map g).mapM f = some (list.map h) := mapM_map_eq_some agree
    simp only [map, mapOption, all, Option.map_some]
  | construction callee arguments | call callee arguments =>
    have first := agree callee List.mem_cons_self
    have others := mapM_map_eq_some fun item inArguments =>
      agree item (List.mem_cons_of_mem _ inArguments)
    simp [map, mapOption, first, others]
  | throwing argument =>
    cases argument with
    | none => rfl
    | some argument => simp [map, mapOption, agree argument List.mem_cons_self]
  | unary operator argument => simp [map, mapOption, agree argument List.mem_cons_self]
  | member owner property => simp [map, mapOption, agree owner List.mem_cons_self]
  | classDeclaration name superclass body =>
    simp only [children, List.mem_append] at agree
    have names := option_mapM_map_eq_some fun item inName => agree item (Or.inl (Or.inl inName))
    have supers := option_mapM_map_eq_some fun item inSuper => agree item (Or.inl (Or.inr inSuper))
    have bodies := option_mapM_map_eq_some fun item inBody => agree item (Or.inr inBody)
    simp [map, mapOption, names, supers, bodies]
  | literal _ | identifier _ | importDeclaration _ _ => rfl

end Form

theorem Term.node_place_form (term : Term) : Term.node term.place term.form = term := by
  cases term
  rfl

namespace Arena

/-- Reads the term at a number. -/
def read? (arena : Arena) (id : Nat) : Option Term :=
  if present : id < arena.rows.size then
    (arena.rows[id].form.mapOption fun child =>
      if id < child then arena.read? child else none).map (Term.node arena.rows[id].place)
  else
    none
termination_by arena.rows.size - id

/-- Reading takes the row and reads what the row names. -/
theorem read?_of_row {arena : Arena} {id : Nat} {row : Row} (found : arena.rows[id]? = some row) :
    arena.read? id =
      (row.form.mapOption fun child => if id < child then arena.read? child else none).map
        (Term.node row.place) := by
  obtain ⟨present, rfl⟩ := Array.getElem?_eq_some_iff.mp found
  rw [read?, dif_pos present]

/-- At the number of a node its term is read. -/
theorem read?_ofTerm {root : Term} {node : Node} (inTree : node ∈ (Node.mk 0 root).subtree) :
    (ofTerm root).read? node.id = some node.term := by
  induction node using Node.induction_on_children with
  | step node inductionHypothesis =>
    obtain ⟨parent, found⟩ := exists_row_of_mem_subtree inTree
    have children : ∀ child ∈ node.form.children,
        (if node.id < child.id then (ofTerm root).read? child.id else none) = some child.term := by
      intro child isChild
      rw [if_pos (Node.id_lt_of_mem_children isChild)]
      exact inductionHypothesis child isChild
        (Node.mem_subtree_trans (Node.mem_subtree_of_mem_children isChild) inTree)
    rw [read?_of_row found, Node.row, Form.mapOption_map children, Node.map_form]
    exact congrArg some (Term.node_place_form node.term)

/-- What is read at the first row of the table that the stack fills is the term of the plain
recursion: parentheses are looked through, and the form that is planned for the node inside
has every role filled by the lowered node that is planned for the role. The term has the span
of the node inside, and the row and the column of its point, counted from one. -/
theorem read?_lower (text : List Char) (tree : Concrete) :
    (lower text tree).read? 0 = some (Lowering.lower text tree) ∧
      Lowering.lower text tree =
        .node ⟨tree.unwrap.span,
            ⟨tree.unwrap.label.point.row + 1, tree.unwrap.label.point.column + 1⟩⟩
          ((Lowering.plan text tree.unwrap).map (Lowering.lower text)) := by
  refine ⟨?_, Lowering.lower_eq text tree⟩
  rw [lower, lowerWith_eq]
  exact read?_ofTerm (Node.self_mem_subtree _)

end Arena

end ErrorLint
