/-
This file shows that lowering opens every concrete node at most once and keeps the layout of
the source. The nodes that lowering opens are, in the order in which it opens them, a part of
the listing of the concrete tree, for what a plan names is picked from the children of the
planned node, and what parentheses stand for is picked from them. Picking keeps the layout as
well: what is picked lies within the nodes from which it is picked, and follows what is picked
before it. So the lowered nodes are laid out as the concrete ones are. What this means for
two nodes of a tree is known, and the rows of the table say it with their numbers.
-/

import ErrorLint.Proofs.Tree.Coverage
import ErrorLint.Proofs.Tree.Picking
import ErrorLint.Proofs.Tree.Stack
import Mathlib.Data.List.Flatten
import Mathlib.Data.List.NodupEquivFin

namespace ErrorLint

/-! ### The layout of concrete nodes -/

namespace Concrete

/-- A concrete node is laid out as a grammar lays it out: its span is a range, its children lie
within it and follow each other, and it is arranged. -/
structure IsLaidOut (tree : Concrete) : Prop where
  proper : tree.span.start ≤ tree.span.stop
  nested : ∀ child ∈ tree.children, child.span.Within tree.span
  ordered : tree.children.Pairwise fun left right => left.span.stop ≤ right.span.start
  arranged : tree.IsArranged

instance (tree : Concrete) : Decidable tree.IsLaidOut :=
  decidable_of_iff
    (tree.span.start ≤ tree.span.stop ∧ (∀ child ∈ tree.children, child.span.Within tree.span) ∧
      (tree.children.Pairwise fun left right => left.span.stop ≤ right.span.start) ∧
      tree.IsArranged)
    ⟨fun ⟨proper, nested, ordered, arranged⟩ => ⟨proper, nested, ordered, arranged⟩,
      fun ⟨proper, nested, ordered, arranged⟩ => ⟨proper, nested, ordered, arranged⟩⟩

variable {siblings picked : List Concrete}

/-- Nothing is picked twice, nor is anything below what is picked. -/
theorem Picks.sublist (picks : Picks siblings picked) :
    (picked.flatMap nodes).Sublist (siblings.flatMap nodes) := by
  induction picks with
  | nil => exact List.Sublist.refl _
  | skip tree _ inductionHypothesis =>
    rw [List.flatMap_cons]
    exact inductionHypothesis.trans (List.sublist_append_right _ _)
  | take tree _ inductionHypothesis =>
    rw [List.flatMap_cons, List.flatMap_cons]
    exact (List.Sublist.refl _).append inductionHypothesis
  | inside tree _ _ deeper others =>
    rw [List.flatMap_append, List.flatMap_cons, nodes_eq]
    exact (deeper.cons tree).append others

/-- What is picked lies within one of the siblings. -/
theorem Picks.within (picks : Picks siblings picked)
    (laidOut : ∀ node ∈ siblings.flatMap nodes, node.IsLaidOut) :
    ∀ node ∈ picked, ∃ tree ∈ siblings, node.span.Within tree.span := by
  induction picks with
  | nil => exact fun node inNone => nomatch inNone
  | skip tree _ inductionHypothesis =>
    rw [List.flatMap_cons, List.forall_mem_append] at laidOut
    intro node isPicked
    obtain ⟨other, inRest, within⟩ := inductionHypothesis laidOut.2 node isPicked
    exact ⟨other, List.mem_cons_of_mem _ inRest, within⟩
  | take tree _ inductionHypothesis =>
    rw [List.flatMap_cons, List.forall_mem_append] at laidOut
    intro node isPicked
    rcases List.mem_cons.mp isPicked with rfl | later
    · exact ⟨node, List.mem_cons_self, Span.Within.refl _⟩
    · obtain ⟨other, inRest, within⟩ := inductionHypothesis laidOut.2 node later
      exact ⟨other, List.mem_cons_of_mem _ inRest, within⟩
  | inside tree _ _ deeper others =>
    rw [List.flatMap_cons, nodes_eq, List.forall_mem_append, List.forall_mem_cons] at laidOut
    obtain ⟨⟨top, below⟩, behind⟩ := laidOut
    intro node isPicked
    rcases List.mem_append.mp isPicked with inside | later
    · obtain ⟨child, isChild, within⟩ := deeper below node inside
      exact ⟨tree, List.mem_cons_self, within.trans (top.nested child isChild)⟩
    · obtain ⟨other, inRest, within⟩ := others behind node later
      exact ⟨other, List.mem_cons_of_mem _ inRest, within⟩

/-- What is picked follows what is picked before it. -/
theorem Picks.pairwise (picks : Picks siblings picked)
    (laidOut : ∀ node ∈ siblings.flatMap nodes, node.IsLaidOut)
    (ordered : siblings.Pairwise fun left right => left.span.stop ≤ right.span.start) :
    picked.Pairwise fun left right => left.span.stop ≤ right.span.start := by
  induction picks with
  | nil => exact List.Pairwise.nil
  | skip tree _ inductionHypothesis =>
    rw [List.flatMap_cons, List.forall_mem_append] at laidOut
    exact inductionHypothesis laidOut.2 (List.pairwise_cons.mp ordered).2
  | take tree picks inductionHypothesis =>
    rw [List.flatMap_cons, List.forall_mem_append] at laidOut
    obtain ⟨follows, orderedRest⟩ := List.pairwise_cons.mp ordered
    have orderedPicked := inductionHypothesis laidOut.2 orderedRest
    refine List.pairwise_cons.mpr ⟨fun node isPicked => ?_, orderedPicked⟩
    obtain ⟨other, inRest, within⟩ := picks.within laidOut.2 node isPicked
    exact Nat.le_trans (follows other inRest) within.1
  | inside tree deeper picks first second =>
    rw [List.flatMap_cons, nodes_eq, List.forall_mem_append, List.forall_mem_cons] at laidOut
    obtain ⟨⟨top, below⟩, behind⟩ := laidOut
    obtain ⟨follows, orderedRest⟩ := List.pairwise_cons.mp ordered
    refine List.pairwise_append.mpr ⟨first below top.ordered, second behind orderedRest, ?_⟩
    intro left inLeft right inRight
    obtain ⟨child, isChild, leftWithin⟩ := deeper.within below left inLeft
    obtain ⟨other, inRest, rightWithin⟩ := picks.within behind right inRight
    have leftInTree := leftWithin.trans (top.nested child isChild)
    exact Nat.le_trans leftInTree.2 (Nat.le_trans (follows other inRest) rightWithin.1)

end Concrete

/-! ### The nodes that are opened -/

namespace Lowering

open Concrete (Picks nodes picks_unwrap)

/-- The concrete nodes that lowering opens, in the order in which it opens them. -/
def opened (text : List Char) (tree : Concrete) : List Concrete :=
  tree.unwrap ::
    (outline text tree.unwrap).2.attach.flatMap fun child => opened text child.1
termination_by tree.size
decreasing_by
  have inner := size_lt_of_mem_outline child.2
  have outer := Concrete.size_unwrap_le tree
  omega

theorem opened_eq (text : List Char) (tree : Concrete) :
    opened text tree =
      tree.unwrap :: (outline text tree.unwrap).2.flatMap (opened text) := by
  rw [opened, List.flatMap_def, List.flatMap_def, List.attach_map_val]

theorem picks_outline (text : List Char) {tree : Concrete} (arranged : tree.IsArranged) :
    Picks tree.children (outline text tree).2 := by
  rw [outline_eq]
  exact picks_plan text arranged

/-- The nodes that are opened below a node are picked from its children. -/
theorem picks_opened (text : List Char) {tree : Concrete} (arranged : tree.IsArranged) :
    Picks tree.children ((outline text tree).2.map Concrete.unwrap) := by
  rw [List.map_eq_flatMap]
  exact (picks_outline text arranged).bind _ fun child _ => picks_unwrap child

/-- No node is opened twice, and the nodes are opened in the order in which the concrete tree
lists them. -/
theorem opened_sublist (text : List Char) {tree : Concrete}
    (arranged : ∀ node ∈ tree.nodes, node.IsArranged) :
    (opened text tree).Sublist tree.nodes := by
  induction bound : tree.size using Nat.strongRecOn generalizing tree with
  | ind size inductionHypothesis =>
    subst bound
    have within : tree.unwrap.nodes.Sublist tree.nodes := by
      have sublist := (picks_unwrap tree).sublist
      rwa [List.flatMap_singleton, List.flatMap_singleton] at sublist
    have picks := picks_outline text (arranged _ (Concrete.unwrap_mem_nodes tree))
    have below : ((outline text tree.unwrap).2.flatMap (opened text)).Sublist
        ((outline text tree.unwrap).2.flatMap nodes) := by
      refine List.Sublist.flatMap_right _ fun child planned => ?_
      have smaller : child.size < tree.size :=
        Nat.lt_of_lt_of_le (size_lt_of_mem_outline planned) (Concrete.size_unwrap_le tree)
      refine inductionHypothesis child.size smaller (fun node inChild => ?_) rfl
      have inChildren := picks.sublist.subset (List.mem_flatMap.mpr ⟨child, planned, inChild⟩)
      refine arranged node (within.subset ?_)
      rw [Concrete.nodes_eq]
      exact List.mem_cons_of_mem _ inChildren
    rw [opened_eq]
    refine List.Sublist.trans ?_ within
    rw [Concrete.nodes_eq]
    exact (below.trans picks.sublist).cons_cons _

/-! ### The concrete node of a number -/

theorem length_opened (text : List Char) (tree : Concrete) :
    (opened text tree).length = (lower text tree).size := by
  induction bound : tree.size using Nat.strongRecOn generalizing tree with
  | ind size inductionHypothesis =>
    subst bound
    have children : (lower text tree).form.children =
        (outline text tree.unwrap).2.map (lower text) := by
      rw [lower_eq, outline_eq]
      exact Form.children_map _ _
    rw [← Term.length_preorder, Term.preorder_eq, children, opened_eq, List.length_cons,
      List.length_cons, List.flatMap_map, List.length_flatMap, List.length_flatMap]
    congr 2
    refine List.map_congr_left fun child planned => ?_
    have smaller : child.size < tree.size :=
      Nat.lt_of_lt_of_le (size_lt_of_mem_outline planned) (Concrete.size_unwrap_le tree)
    rw [inductionHypothesis child.size smaller child rfl, Term.length_preorder]

/-- A node is lowered from a concrete node, and the nodes that are opened for this one are
listed from the number of the node on. -/
structure IsOpened (text : List Char) (listed : List Concrete) (node : Node) (tree : Concrete) :
    Prop where
  term : node.term = lower text tree
  prefix_drop : opened text tree <+: listed.drop node.id

theorem prefix_drop_append {listed front back : List Concrete} {position : Nat}
    (whole : front ++ back <+: listed.drop position) :
    front <+: listed.drop position ∧ back <+: listed.drop (position + front.length) := by
  obtain ⟨rest, equal⟩ := whole
  refine ⟨⟨back ++ rest, ?_⟩, ⟨rest, ?_⟩⟩
  · rw [← List.append_assoc, equal]
  · rw [← List.drop_drop, ← equal, List.append_assoc, List.drop_left]

/-- Numbered from where the nodes are listed that are opened for them, all trees are opened. -/
theorem forall₂_isOpened_numbered {text : List Char} {listed trees : List Concrete} {next : Nat}
    (together : trees.flatMap (opened text) <+: listed.drop next) :
    List.Forall₂ (IsOpened text listed) (Node.numbered next (trees.map (lower text))) trees := by
  induction trees generalizing next with
  | nil => exact List.Forall₂.nil
  | cons tree rest inductionHypothesis =>
    rw [List.flatMap_cons] at together
    obtain ⟨first, others⟩ := prefix_drop_append together
    rw [length_opened] at others
    exact List.Forall₂.cons ⟨rfl, first⟩ (inductionHypothesis others)

namespace IsOpened

variable {text : List Char} {listed : List Concrete} {node : Node} {tree : Concrete}

theorem getElem?_id (isOpened : IsOpened text listed node tree) :
    listed[node.id]? = some tree.unwrap := by
  obtain ⟨rest, equal⟩ := isOpened.prefix_drop
  rw [opened_eq, List.cons_append] at equal
  have first := congrArg (·[0]?) equal
  rw [List.getElem?_drop] at first
  exact first.symm

theorem span_eq (isOpened : IsOpened text listed node tree) : node.span = tree.unwrap.span := by
  rw [Node.span, isOpened.term, lower_eq]
  rfl

/-- The children of a node are opened for the nodes of its outline. -/
theorem children (isOpened : IsOpened text listed node tree) :
    List.Forall₂ (IsOpened text listed) node.children (outline text tree.unwrap).2 := by
  obtain ⟨id, term⟩ := node
  obtain ⟨rfl, behind⟩ := isOpened
  rw [children_of_outline]
  rw [opened_eq, ← List.singleton_append] at behind
  exact forall₂_isOpened_numbered (prefix_drop_append behind).2

/-- What is known of a child and the node for which it is opened is known of all children. -/
theorem map_children {α : Type} {ofNode : Node → α} {ofTree : Concrete → α}
    (isOpened : IsOpened text listed node tree)
    (same : ∀ child planned, IsOpened text listed child planned → ofNode child = ofTree planned) :
    node.children.map ofNode = (outline text tree.unwrap).2.map ofTree := by
  rw [← List.forall₂_eq_eq_eq, List.forall₂_map_left_iff, List.forall₂_map_right_iff]
  exact isOpened.children.imp same

theorem exists_of_mem_subtree (isOpened : IsOpened text listed node tree) {inner : Node}
    (inside : inner ∈ node.subtree) : ∃ origin, IsOpened text listed inner origin := by
  induction node using Node.induction_on_children generalizing tree with
  | step node inductionHypothesis =>
    rcases Node.mem_subtree_iff.mp inside with rfl | ⟨child, isChild, inChild⟩
    · exact ⟨tree, isOpened⟩
    · obtain ⟨position, rfl⟩ := List.get_of_mem isChild
      have childOpened := isOpened.children.get position.2
        (isOpened.children.length_eq ▸ position.2)
      exact inductionHypothesis _ isChild childOpened inChild

/-- A node is laid out, if all is that stands below the concrete one. -/
theorem laidOut (isOpened : IsOpened text listed node tree)
    (laidOut : ∀ inner ∈ tree.unwrap.nodes, inner.IsLaidOut) : node.LaidOut := by
  rw [Concrete.nodes_eq, List.forall_mem_cons] at laidOut
  obtain ⟨top, below⟩ := laidOut
  have picks := picks_opened text top.arranged
  have spans : node.children.map Node.span =
      ((outline text tree.unwrap).2.map Concrete.unwrap).map Concrete.span := by
    rw [List.map_map]
    exact isOpened.map_children fun child planned opened => opened.span_eq
  constructor
  case nested =>
    intro child isChild
    have member := List.mem_map_of_mem (f := Node.span) isChild
    rw [spans] at member
    obtain ⟨origin, isPicked, same⟩ := List.mem_map.mp member
    obtain ⟨sibling, isSibling, within⟩ := picks.within below origin isPicked
    rw [← same, isOpened.span_eq]
    exact within.trans (top.nested sibling isSibling)
  case ordered =>
    have ordered := picks.pairwise below top.ordered
    rw [← List.pairwise_map (f := Concrete.span) (R := fun left right => left.stop ≤ right.start),
      ← spans, List.pairwise_map] at ordered
    exact ordered

end IsOpened

theorem isOpened_root (text : List Char) (tree : Concrete) :
    IsOpened text (opened text tree) ⟨0, lower text tree⟩ tree :=
  ⟨rfl, List.prefix_refl _⟩

/-- All nodes of a lowered tree are laid out and their spans are ranges, if this holds of the
concrete tree. -/
theorem laidOut_lower (text : List Char) {tree : Concrete}
    (laidOut : ∀ node ∈ tree.nodes, node.IsLaidOut) :
    ∀ node ∈ (Node.mk 0 (lower text tree)).subtree,
      node.LaidOut ∧ node.span.start ≤ node.span.stop := by
  intro node inLowered
  obtain ⟨origin, isOpened⟩ := (isOpened_root text tree).exists_of_mem_subtree inLowered
  have sublist := opened_sublist text fun node inTree => (laidOut node inTree).arranged
  have inTree := sublist.subset (List.mem_of_getElem? isOpened.getElem?_id)
  refine ⟨isOpened.laidOut fun inner inside => ?_, ?_⟩
  · exact laidOut inner (Concrete.mem_nodes_trans inside inTree)
  · rw [isOpened.span_eq]
    exact (laidOut _ inTree).proper

end Lowering

/-! ### The layout of a table -/

/-- A row is made from a concrete node: it has its place, and it is what the outline of the node
becomes over the numbers of its children. The concrete nodes of these numbers are those that are
to be lowered for the outline, without parentheses around them. -/
structure Row.IsMadeFrom (text : List Char) (origin : Nat → Option Concrete) (node : Concrete)
    (row : Row) : Prop where
  place : row.place = node.place
  outline : Lowering.outlineOf row.form = (Lowering.outline text node).1
  children : row.form.children.map origin =
    (Lowering.outline text node).2.map fun child => some child.unwrap

theorem Lowering.IsOpened.isMadeFrom {text : List Char} {listed : List Concrete} {node : Node}
    {tree : Concrete} (isOpened : IsOpened text listed node tree) (parent : Option Nat) :
    (node.row parent).IsMadeFrom text (listed[·]?) tree.unwrap where
  place := by
    show node.term.place = _
    rw [isOpened.term, lower_eq]
    rfl
  outline := by
    rw [Node.row, outlineOf_map]
    exact outlineOf_form isOpened.term
  children := by
    rw [Node.row, Form.children_map, List.map_map]
    exact isOpened.map_children fun child planned opened => opened.getElem?_id

namespace Arena

/-- A table keeps the layout of a concrete tree. -/
structure KeepsLayout (text : List Char) (tree : Concrete) (arena : Arena) : Prop where
  /-- The rows are made from concrete nodes at different positions, in ascending order, and the
  first one from the root. -/
  origins : ∃ position : Nat ↪o Nat,
    tree.nodes[position 0]? = some tree.unwrap ∧
      ∀ (id : Nat) (row : Row), arena.rows[id]? = some row →
        ∃ node, tree.nodes[position id]? = some node ∧
          row.IsMadeFrom text (fun child => tree.nodes[position child]?) node
  /-- A node lies within its parent. -/
  nested : ∀ (id parent : Nat) (inner : Row), arena.rows[id]? = some inner →
    inner.parent = some parent →
      ∃ outer, arena.rows[parent]? = some outer ∧ inner.place.span.Within outer.place.span
  /-- A node ends where or before a later one starts that does not stand below it. -/
  apart : ∀ (first second : Nat) (earlier later : Row), arena.rows[first]? = some earlier →
    arena.rows[second]? = some later → first < second → ¬ arena.Descends second first →
      earlier.place.span.stop ≤ later.place.span.start
  /-- No node starts before an earlier one. -/
  ascending : ∀ (first second : Nat) (earlier later : Row), arena.rows[first]? = some earlier →
    arena.rows[second]? = some later → first ≤ second →
      earlier.place.span.start ≤ later.place.span.start

section

variable {root : Term} {first second : Nat} {earlier later : Row}

theorem nested_ofTerm (laidOut : ∀ node ∈ (Node.mk 0 root).subtree, node.LaidOut)
    {id parent : Nat} {inner : Row} (found : (ofTerm root).rows[id]? = some inner)
    (named : inner.parent = some parent) :
    ∃ outer, (ofTerm root).rows[parent]? = some outer ∧
      inner.place.span.Within outer.place.span := by
  have link : (ofTerm root).parent? id = some parent := by
    rw [parent?, found]
    exact named
  obtain ⟨outer, inTree, child, isChild, rfl, rfl⟩ := parent?_ofTerm_eq_some_iff.mp link
  obtain ⟨grandparent, outerFound⟩ := exists_row_of_mem_subtree inTree
  rw [getElem?_ofTerm_of_mem_children inTree isChild] at found
  obtain rfl := Option.some.inj found
  exact ⟨_, outerFound, (laidOut outer inTree).nested child isChild⟩

/-- A row with a smaller number is that of a node that precedes. -/
theorem precedes_ofTerm (laidOut : ∀ node ∈ (Node.mk 0 root).subtree, node.LaidOut)
    (firstFound : (ofTerm root).rows[first]? = some earlier)
    (secondFound : (ofTerm root).rows[second]? = some later) (less : first < second) :
    ((ofTerm root).Descends second first ∧ later.place.span.Within earlier.place.span) ∨
      earlier.place.span.stop ≤ later.place.span.start := by
  obtain ⟨left, leftInTree, rfl, _, rfl⟩ := exists_node_of_getElem?_ofTerm firstFound
  obtain ⟨right, rightInTree, rfl, _, rfl⟩ := exists_node_of_getElem?_ofTerm secondFound
  rcases Node.precedes_of_id_lt laidOut leftInTree rightInTree less with below | follows
  · have laidOutBelow : ∀ inner ∈ left.subtree, inner.LaidOut := fun inner inside =>
      laidOut inner (Node.mem_subtree_trans inside leftInTree)
    have inside : right ∈ left.subtree := Node.mem_subtree_iff.mpr (Or.inr below)
    exact Or.inl ⟨descends_of_below leftInTree below,
      Node.within_of_mem_subtree laidOutBelow inside⟩
  · exact Or.inr follows

/-- The offsets of a tree that is laid out do not decrease with the numbers. -/
theorem ascending_ofTerm
    (laidOut : ∀ node ∈ (Node.mk 0 root).subtree, node.LaidOut ∧ node.span.start ≤ node.span.stop)
    (firstFound : (ofTerm root).rows[first]? = some earlier)
    (secondFound : (ofTerm root).rows[second]? = some later) (notAfter : first ≤ second) :
    earlier.place.span.start ≤ later.place.span.start := by
  rcases Nat.eq_or_lt_of_le notAfter with rfl | less
  · rw [firstFound] at secondFound
    rw [Option.some.inj secondFound]
  · obtain ⟨node, inTree, -, _, rfl⟩ := exists_node_of_getElem?_ofTerm firstFound
    rcases precedes_ofTerm (fun inner inside => (laidOut inner inside).1) firstFound secondFound
        less
      with ⟨-, within⟩ | follows
    · exact within.1
    · exact Nat.le_trans (laidOut node inTree).2 follows

end

/-- The rows of a table are made from nodes at ascending positions of the concrete tree, if its
nodes are arranged. -/
theorem exists_position_ofTerm (text : List Char) {tree : Concrete}
    (arranged : ∀ node ∈ tree.nodes, node.IsArranged) :
    ∃ position : Nat ↪o Nat, tree.nodes[position 0]? = some tree.unwrap ∧
      ∀ (id : Nat) (row : Row), (ofTerm (Lowering.lower text tree)).rows[id]? = some row →
        ∃ node, tree.nodes[position id]? = some node ∧
          row.IsMadeFrom text (fun child => tree.nodes[position child]?) node := by
  obtain ⟨position, same⟩ := List.sublist_iff_exists_orderEmbedding_getElem?_eq.mp
    (Lowering.opened_sublist text arranged)
  have rootOpened := Lowering.isOpened_root text tree
  refine ⟨position, (same 0).symm.trans rootOpened.getElem?_id, fun id row found => ?_⟩
  obtain ⟨node, inTree, rfl, parent, rfl⟩ := exists_node_of_getElem?_ofTerm found
  obtain ⟨origin, isOpened⟩ := rootOpened.exists_of_mem_subtree inTree
  simp only [← same]
  exact ⟨origin.unwrap, isOpened.getElem?_id, isOpened.isMadeFrom parent⟩

/-- Lowering opens every concrete node at most once and keeps the layout: if all nodes of a
concrete tree are laid out, every row of the table is made from a node of its own, and the spans
in the table are nested and ordered as its links and numbers say. -/
theorem lower_keepsLayout (text : List Char) (tree : Concrete)
    (laidOut : ∀ node ∈ tree.nodes, node.IsLaidOut) : (lower text tree).KeepsLayout text tree := by
  have table : lower text tree = ofTerm (Lowering.lower text tree) := lowerWith_eq _ text tree
  have lowered := Lowering.laidOut_lower text laidOut
  have nodesLaidOut := fun node inTree => (lowered node inTree).1
  rw [table]
  constructor
  case origins =>
    exact exists_position_ofTerm text fun node inTree => (laidOut node inTree).arranged
  case nested =>
    exact fun id parent inner found named => nested_ofTerm nodesLaidOut found named
  case apart =>
    intro first second earlier later firstFound secondFound less notBelow
    rcases precedes_ofTerm nodesLaidOut firstFound secondFound less with ⟨below, -⟩ | follows
    · exact absurd below notBelow
    · exact follows
  case ascending =>
    exact fun first second earlier later firstFound secondFound notAfter =>
      ascending_ofTerm lowered firstFound secondFound notAfter

end Arena

namespace Sample

/-- A class whose superclass is in parentheses constructs something from a template, in whose
hole there are parentheses as well. -/
def derivedClass : Concrete :=
  part "program" none 0 43 [part "class_declaration" none 0 43 [
    part "identifier" (some "name") 6 7 [],
    part "class_heritage" none 8 19 [
      part "parenthesized_expression" none 16 19 [part "identifier" none 17 18 []]],
    part "class_body" (some "body") 20 43 [part "field_definition" none 22 41 [
      part "new_expression" (some "value") 26 41 [
        part "identifier" (some "constructor") 30 31 [],
        part "arguments" (some "arguments") 31 41 [part "template_string" none 32 40 [
          part "template_substitution" none 33 39 [
            part "parenthesized_expression" none 35 38 [
              part "identifier" none 36 37 []]]]]]]]]]

end Sample

/-- The nodes that are passed over on the way to the superclass and into the template have no
rows, and the others keep their places. -/
theorem Arena.lower_keepsLayout_sample :
    let text := "class A extends (B) \x7b c = new C(`$\x7b(d)\x7d`) \x7d".toList
    (∀ node ∈ Sample.derivedClass.nodes, node.IsLaidOut) ∧
      (lower text Sample.derivedClass).KeepsLayout text Sample.derivedClass ∧
      (lower text Sample.derivedClass).rows.toList.map (·.place.span) =
        [⟨0, 43⟩, ⟨0, 43⟩, ⟨6, 7⟩, ⟨17, 18⟩, ⟨20, 43⟩, ⟨22, 41⟩, ⟨26, 41⟩, ⟨30, 31⟩, ⟨32, 40⟩,
          ⟨36, 37⟩] := by
  intro text
  have laidOut : ∀ node ∈ Sample.derivedClass.nodes, node.IsLaidOut := by decide +kernel
  exact ⟨laidOut, lower_keepsLayout text Sample.derivedClass laidOut, by decide +kernel⟩

end ErrorLint
