/-
This file is about the table of a numbered tree. Every node has a row with its place, the
number of its parent and its form over the numbers of its children. Listed node by node, a
table is the row of a node followed by the tables of its children, and from this the links
in it can be read off: who is a child of whom is said twice, once in the form of the parent
and once in the row of the child, and both say the same.

The numbers are those of the pre-order. So what stands below a node has the numbers that
directly follow its own, and as many of them as there are nodes below it.
-/

import ErrorLint.Proofs.Tree.Geometry
import ErrorLint.Tree.Arena
import Mathlib.Data.List.Basic
import Mathlib.Logic.Relation

namespace ErrorLint

/-! ### The numbers of a subtree -/

theorem Term.size_pos (term : Term) : 0 < term.size := by
  obtain ⟨place, form⟩ := term
  exact Nat.succ_pos _

namespace Node

theorem bounds_of_mem_numbered {next : Nat} {terms : List Term} {node : Node}
    (member : node ∈ numbered next terms) :
    next ≤ node.id ∧ node.id + node.term.size ≤ next + Term.sizeAll terms := by
  induction terms generalizing next with
  | nil => cases member
  | cons term rest inductionHypothesis =>
    rw [Term.sizeAll]
    rcases List.mem_cons.mp member with rfl | inRest
    · dsimp only
      omega
    · have bounds := inductionHypothesis inRest
      omega

theorem pairwise_numbered (next : Nat) (terms : List Term) :
    (numbered next terms).Pairwise fun left right => left.id < right.id := by
  induction terms generalizing next with
  | nil => exact List.Pairwise.nil
  | cons term rest inductionHypothesis =>
    refine List.pairwise_cons.mpr ⟨fun later inRest => ?_, inductionHypothesis _⟩
    have bounds := bounds_of_mem_numbered inRest
    have positive := term.size_pos
    dsimp only
    omega

theorem id_lt_of_mem_children {child node : Node} (isChild : child ∈ node.children) :
    node.id < child.id := by
  rw [children_eq] at isChild
  exact (bounds_of_mem_numbered isChild).1

theorem term_size_lt_of_mem_children {child node : Node} (isChild : child ∈ node.children) :
    child.term.size < node.term.size := by
  rw [children_eq] at isChild
  have bounds := bounds_of_mem_numbered isChild
  obtain ⟨id, place, form⟩ := node
  rw [Term.size, Term.sizeBelow_eq]
  dsimp only [Term.form] at bounds
  omega

/-- The numbers of a subtree are consecutive and start with that of its root. -/
theorem map_id_subtree (node : Node) :
    node.subtree.map Node.id = List.range' node.id node.term.size := by
  rw [← Term.length_preorder, ← List.zipIdx_map_snd, subtree, List.map_map]
  rfl

theorem mem_subtree_id_bounds {inner node : Node} (inside : inner ∈ node.subtree) :
    node.id ≤ inner.id ∧ inner.id < node.id + node.term.size := by
  have numbered := List.mem_map_of_mem (f := Node.id) inside
  rw [map_id_subtree] at numbered
  exact List.mem_range'_1.mp numbered

/-- In a subtree the number tells the node. -/
theorem eq_of_id_eq {first second node : Node} (firstInside : first ∈ node.subtree)
    (secondInside : second ∈ node.subtree) (same : first.id = second.id) : first = second := by
  obtain ⟨⟨firstTerm, firstId⟩, firstIndexed, rfl⟩ := List.mem_map.mp firstInside
  obtain ⟨⟨secondTerm, secondId⟩, secondIndexed, rfl⟩ := List.mem_map.mp secondInside
  have firstFound := (List.mem_zipIdx_iff_le_and_getElem?_sub.mp firstIndexed).2
  have secondFound := (List.mem_zipIdx_iff_le_and_getElem?_sub.mp secondIndexed).2
  dsimp only at same firstFound secondFound
  rw [same, secondFound] at firstFound
  rw [same, Option.some.inj firstFound]

/-- In a subtree that is laid out, a node with a smaller number precedes. -/
theorem precedes_of_id_lt {first second node : Node}
    (laidOut : ∀ inner ∈ node.subtree, inner.LaidOut) (firstInside : first ∈ node.subtree)
    (secondInside : second ∈ node.subtree) (less : first.id < second.id) :
    first.Precedes second := by
  have ascending : node.subtree.Pairwise fun left right => left.id < right.id := by
    rw [← List.pairwise_map (f := Node.id) (R := (· < ·)), map_id_subtree]
    exact List.pairwise_lt_range'
  have inOrder := ascending.and (pairwise_subtree laidOut)
  exact List.Pairwise.forall_of_forall_of_flip
    (R := fun left right => left.id < right.id → left.Precedes right)
    (fun left _ same => absurd same (Nat.lt_irrefl left.id))
    (inOrder.imp fun both _ => both.2)
    (inOrder.imp fun both greater => absurd greater (Nat.lt_asymm both.1))
    firstInside secondInside less

/-- Every node of a subtree but its root has a parent in it. -/
theorem eq_or_exists_parent {inner node : Node} (inside : inner ∈ node.subtree) :
    inner = node ∨ ∃ outer ∈ node.subtree, inner ∈ outer.children := by
  induction node using induction_on_children with
  | step node inductionHypothesis =>
    rcases mem_subtree_iff.mp inside with isRoot | ⟨child, isChild, inChild⟩
    · exact Or.inl isRoot
    · right
      rcases inductionHypothesis child isChild inChild with rfl | ⟨outer, inOuter, isInner⟩
      · exact ⟨node, self_mem_subtree node, isChild⟩
      · exact ⟨outer, mem_subtree_trans inOuter (mem_subtree_of_mem_children isChild), isInner⟩

/-- The numbers below a node are those that directly follow its own. -/
theorem exists_below_iff {node : Node} {id : Nat} :
    (∃ inner : Node, inner.Below node ∧ inner.id = id) ↔
      node.id < id ∧ id ≤ node.id + (node.term.size - 1) := by
  have ids := map_id_subtree node
  obtain ⟨count, size⟩ : ∃ count, node.term.size = count + 1 :=
    ⟨node.term.size - 1, (Nat.succ_pred_eq_of_pos node.term.size_pos).symm⟩
  rw [subtree_eq, List.map_cons, size, List.range'_succ] at ids
  have below := (List.cons.inj ids).2
  constructor
  · rintro ⟨inner, isBelow, rfl⟩
    have member := List.mem_map_of_mem (f := Node.id) (List.mem_flatMap.mpr isBelow)
    rw [below, List.mem_range'_1] at member
    omega
  · intro bounds
    have member : id ∈ List.range' (node.id + 1) count := List.mem_range'_1.mpr (by omega)
    rw [← below] at member
    obtain ⟨inner, inside, rfl⟩ := List.mem_map.mp member
    exact ⟨inner, List.mem_flatMap.mp inside, rfl⟩

/-! ### The rows of a subtree -/

/-- The row of a node with the given parent. -/
def row (parent : Option Nat) (node : Node) : Row :=
  ⟨node.place, parent, node.form.map Node.id⟩

/-- The rows of a node and of all nodes below it, each with its number. -/
def entries (parent : Option Nat) (node : Node) : List (Nat × Row) :=
  (node.id, node.row parent) ::
    node.children.attach.flatMap fun child => entries (some node.id) child.1
termination_by node.term.size
decreasing_by exact term_size_lt_of_mem_children child.2

theorem entries_eq (parent : Option Nat) (node : Node) :
    node.entries parent =
      (node.id, node.row parent) :: node.children.flatMap (entries (some node.id)) := by
  rw [entries, List.flatMap_def, List.flatMap_def, List.attach_map_val]

theorem map_fst_entries (parent : Option Nat) (node : Node) :
    (node.entries parent).map Prod.fst = List.range' node.id node.term.size := by
  rw [← map_id_subtree]
  induction node using induction_on_children generalizing parent with
  | step node inductionHypothesis =>
    rw [entries_eq, subtree_eq, List.map_cons, List.map_cons, List.map_flatMap, List.map_flatMap]
    refine congrArg (node.id :: ·) (List.flatMap_congr fun child isChild => ?_)
    exact inductionHypothesis child isChild _

theorem mem_entries_iff {parent : Option Nat} {node : Node} {entry : Nat × Row} :
    entry ∈ node.entries parent ↔
      entry = (node.id, node.row parent) ∨
        ∃ child ∈ node.children, entry ∈ child.entries (some node.id) := by
  rw [entries_eq, List.mem_cons, List.mem_flatMap]

/-- The row of a child names its parent. -/
theorem row_mem_entries {parent : Option Nat} {node outer child : Node}
    (inside : outer ∈ node.subtree) (isChild : child ∈ outer.children) :
    (child.id, child.row (some outer.id)) ∈ node.entries parent := by
  induction node using induction_on_children generalizing parent with
  | step node inductionHypothesis =>
    rw [mem_entries_iff]
    right
    rcases mem_subtree_iff.mp inside with rfl | ⟨middle, isMiddle, inMiddle⟩
    · exact ⟨child, isChild, mem_entries_iff.mpr (Or.inl rfl)⟩
    · exact ⟨middle, isMiddle, inductionHypothesis middle isMiddle inMiddle⟩

/-- A row is that of the root, or that of a child with its parent. -/
theorem of_mem_entries {parent : Option Nat} {node : Node} {entry : Nat × Row}
    (member : entry ∈ node.entries parent) :
    entry = (node.id, node.row parent) ∨
      ∃ outer ∈ node.subtree, ∃ child ∈ outer.children,
        entry = (child.id, child.row (some outer.id)) := by
  induction node using induction_on_children generalizing parent with
  | step node inductionHypothesis =>
    rcases mem_entries_iff.mp member with isRoot | ⟨child, isChild, inChild⟩
    · exact Or.inl isRoot
    · right
      rcases inductionHypothesis child isChild inChild with
        isChildRow | ⟨outer, inside, inner, isInner, equal⟩
      · exact ⟨node, self_mem_subtree node, child, isChild, isChildRow⟩
      · exact ⟨outer, mem_subtree_trans inside (mem_subtree_of_mem_children isChild), inner,
          isInner, equal⟩

end Node

/-! ### Tables -/

namespace Arena

/-- The number of the parent that the row of a node names. -/
def parent? (arena : Arena) (id : Nat) : Option Nat := arena.rows[id]?.bind (·.parent)

/-- The numbers of the children that the form of a node names. -/
def children (arena : Arena) (id : Nat) : List Nat :=
  (arena.rows[id]?.map (·.form.children)).getD []

/-- A node stands below another one: it has it for a parent, or its parent does. -/
def Descends (arena : Arena) : Nat → Nat → Prop :=
  Relation.TransGen fun inner outer => arena.parent? inner = some outer

/-- The links of a table are in order. -/
structure WellLinked (arena : Arena) : Prop where
  nonempty : 0 < arena.rows.size
  /-- The first node is the only one without a parent. -/
  root : ∀ id < arena.rows.size, arena.parent? id = none ↔ id = 0
  /-- A parent comes before its children. -/
  parent_lt : ∀ id parent, arena.parent? id = some parent → parent < id
  /-- The children of a node are in the table, in ascending order. -/
  children_lt : ∀ id, ∀ child ∈ arena.children id, child < arena.rows.size
  ascending : ∀ id, (arena.children id).Pairwise (· < ·)
  /-- The children that a node names are the nodes that name it as their parent. -/
  mem_children_iff : ∀ id child, child ∈ arena.children id ↔ arena.parent? child = some id
  /-- What stands below a node follows it without a gap. -/
  contiguous : ∀ id < arena.rows.size, ∃ count, ∀ other,
    arena.Descends other id ↔ id < other ∧ other ≤ id + count

/-- The table of a term that is numbered from zero on. -/
def ofTerm (root : Term) : Arena := ⟨((Node.mk 0 root).entries none |>.map Prod.snd).toArray⟩

section

variable {root : Term} {id : Nat}

theorem size_ofTerm (root : Term) : (ofTerm root).rows.size = root.size := by
  have ids := congrArg List.length (Node.map_fst_entries none (Node.mk 0 root))
  simpa [ofTerm] using ids

theorem fst_of_getElem?_entries {position : Nat} {entry : Nat × Row}
    (found : ((Node.mk 0 root).entries none)[position]? = some entry) : entry.1 = position := by
  have ids := congrArg (·[position]?) (Node.map_fst_entries none (Node.mk 0 root))
  simp only [List.getElem?_map, found, Option.map_some] at ids
  obtain ⟨_, same⟩ := List.getElem?_eq_some_iff.mp ids.symm
  rw [← same, List.getElem_range', Nat.zero_add, Nat.one_mul]

/-- The row at a number is the one that is listed with the number. -/
theorem getElem?_ofTerm_eq_some_iff {row : Row} :
    (ofTerm root).rows[id]? = some row ↔ (id, row) ∈ (Node.mk 0 root).entries none := by
  rw [ofTerm, List.getElem?_toArray, List.getElem?_map, Option.map_eq_some_iff,
    List.mem_iff_getElem?]
  constructor
  · rintro ⟨⟨number, row⟩, found, rfl⟩
    obtain rfl := fst_of_getElem?_entries found
    exact ⟨_, found⟩
  · rintro ⟨position, found⟩
    obtain rfl := fst_of_getElem?_entries found
    exact ⟨_, found, rfl⟩

/-- The first row is that of the root. -/
theorem getElem?_ofTerm_zero (root : Term) :
    (ofTerm root).rows[0]? = some ((Node.mk 0 root).row none) :=
  getElem?_ofTerm_eq_some_iff.mpr (Node.mem_entries_iff.mpr (Or.inl rfl))

/-- The row of a child names its parent. -/
theorem getElem?_ofTerm_of_mem_children {outer child : Node}
    (inTree : outer ∈ (Node.mk 0 root).subtree) (isChild : child ∈ outer.children) :
    (ofTerm root).rows[child.id]? = some (child.row (some outer.id)) :=
  getElem?_ofTerm_eq_some_iff.mpr (Node.row_mem_entries inTree isChild)

theorem exists_node_of_lt (bound : id < root.size) :
    ∃ node ∈ (Node.mk 0 root).subtree, node.id = id := by
  have member : id ∈ List.range' 0 root.size := List.mem_range'_1.mpr (by omega)
  rw [← Node.map_id_subtree (Node.mk 0 root)] at member
  exact List.mem_map.mp member

/-- The row of a node names a parent if and only if the parent names the node. -/
theorem parent?_ofTerm_eq_some_iff {parent : Nat} :
    (ofTerm root).parent? id = some parent ↔
      ∃ outer ∈ (Node.mk 0 root).subtree, ∃ child ∈ outer.children,
        child.id = id ∧ outer.id = parent := by
  rw [parent?, Option.bind_eq_some_iff]
  constructor
  · rintro ⟨row, found, named⟩
    rcases Node.of_mem_entries (getElem?_ofTerm_eq_some_iff.mp found) with
      isRoot | ⟨outer, inTree, child, isChild, isRow⟩
    · obtain ⟨rfl, rfl⟩ := Prod.mk.inj isRoot
      cases named
    · obtain ⟨rfl, rfl⟩ := Prod.mk.inj isRow
      exact ⟨outer, inTree, child, isChild, rfl, Option.some.inj named⟩
  · rintro ⟨outer, inTree, child, isChild, rfl, rfl⟩
    exact ⟨_, getElem?_ofTerm_of_mem_children inTree isChild, rfl⟩

/-- Every node of the tree has a row with its place and its form. -/
theorem exists_row_of_mem_subtree {node : Node} (inTree : node ∈ (Node.mk 0 root).subtree) :
    ∃ parent, (ofTerm root).rows[node.id]? = some (node.row parent) := by
  rcases Node.eq_or_exists_parent inTree with rfl | ⟨outer, outerInTree, isChild⟩
  · exact ⟨none, getElem?_ofTerm_zero root⟩
  · exact ⟨some outer.id, getElem?_ofTerm_of_mem_children outerInTree isChild⟩

theorem children_ofTerm {node : Node} (inTree : node ∈ (Node.mk 0 root).subtree) :
    (ofTerm root).children node.id = node.children.map Node.id := by
  obtain ⟨parent, found⟩ := exists_row_of_mem_subtree inTree
  rw [children, found]
  exact Form.children_map _ _

theorem children_ofTerm_of_le (outside : root.size ≤ id) : (ofTerm root).children id = [] := by
  rw [children, Array.getElem?_eq_none (by rwa [size_ofTerm])]
  rfl

/-- The row at a number is that of the node with the number. -/
theorem exists_node_of_getElem?_ofTerm {row : Row} (found : (ofTerm root).rows[id]? = some row) :
    ∃ node ∈ (Node.mk 0 root).subtree, node.id = id ∧ ∃ parent, row = node.row parent := by
  rcases Node.of_mem_entries (getElem?_ofTerm_eq_some_iff.mp found) with
    isRoot | ⟨outer, inTree, child, isChild, isRow⟩
  · obtain ⟨rfl, rfl⟩ := Prod.mk.inj isRoot
    exact ⟨_, Node.self_mem_subtree _, rfl, none, rfl⟩
  · obtain ⟨rfl, rfl⟩ := Prod.mk.inj isRow
    exact ⟨child, Node.mem_subtree_trans (Node.mem_subtree_of_mem_children isChild) inTree, rfl,
      some outer.id, rfl⟩

/-- Every row is that of a node of the tree. -/
theorem exists_node_of_mem_rows {row : Row} (member : row ∈ (ofTerm root).rows) :
    ∃ node ∈ (Node.mk 0 root).subtree, ∃ parent, row = node.row parent := by
  obtain ⟨id, found⟩ := Array.getElem?_of_mem member
  obtain ⟨node, inTree, -, parent, isRow⟩ := exists_node_of_getElem?_ofTerm found
  exact ⟨node, inTree, parent, isRow⟩

/-- The numbers that the form of a node names are those of its children in the tree. -/
theorem mem_children_ofTerm_iff {number : Nat} :
    number ∈ (ofTerm root).children id ↔
      ∃ outer ∈ (Node.mk 0 root).subtree, ∃ child ∈ outer.children,
        child.id = number ∧ outer.id = id := by
  constructor
  · intro named
    by_cases bound : id < root.size
    · obtain ⟨node, inTree, rfl⟩ := exists_node_of_lt bound
      rw [children_ofTerm inTree] at named
      obtain ⟨child, isChild, same⟩ := List.mem_map.mp named
      exact ⟨node, inTree, child, isChild, same, rfl⟩
    · rw [children_ofTerm_of_le (Nat.le_of_not_lt bound)] at named
      cases named
  · rintro ⟨outer, inTree, child, isChild, rfl, rfl⟩
    rw [children_ofTerm inTree]
    exact List.mem_map_of_mem isChild

/-- A node of the tree descends from another one in the table if it stands below it. -/
theorem descends_of_below {inner node : Node} (inTree : node ∈ (Node.mk 0 root).subtree)
    (below : inner.Below node) : (ofTerm root).Descends inner.id node.id := by
  induction node using Node.induction_on_children with
  | step node inductionHypothesis =>
    obtain ⟨child, isChild, inside⟩ := below
    have link : (ofTerm root).parent? child.id = some node.id :=
      parent?_ofTerm_eq_some_iff.mpr ⟨node, inTree, child, isChild, rfl, rfl⟩
    rcases Node.mem_subtree_iff.mp inside with rfl | isBelow
    · exact Relation.TransGen.single link
    · have childInTree :=
        Node.mem_subtree_trans (Node.mem_subtree_of_mem_children isChild) inTree
      exact (inductionHypothesis child isChild childInTree isBelow).tail link

/-- What descends from a node in the table stands below it in the tree. -/
theorem exists_below_of_descends {node : Node} (inTree : node ∈ (Node.mk 0 root).subtree)
    (descends : (ofTerm root).Descends id node.id) :
    ∃ inner : Node, inner.Below node ∧ inner.id = id := by
  induction descends using Relation.TransGen.head_induction_on with
  | single link =>
    obtain ⟨outer, outerInTree, child, isChild, rfl, same⟩ := parent?_ofTerm_eq_some_iff.mp link
    obtain rfl := Node.eq_of_id_eq outerInTree inTree same
    exact ⟨child, ⟨child, isChild, Node.self_mem_subtree child⟩, rfl⟩
  | head link _ inductionHypothesis =>
    obtain ⟨outer, outerInTree, child, isChild, rfl, same⟩ := parent?_ofTerm_eq_some_iff.mp link
    obtain ⟨middle, ⟨top, isTop, inTop⟩, rfl⟩ := inductionHypothesis
    have middleInTree := Node.mem_subtree_trans inTop
      (Node.mem_subtree_trans (Node.mem_subtree_of_mem_children isTop) inTree)
    obtain rfl := Node.eq_of_id_eq outerInTree middleInTree same
    exact ⟨child, ⟨top, isTop,
      Node.mem_subtree_trans (Node.mem_subtree_of_mem_children isChild) inTop⟩, rfl⟩

/-- The table of a numbered term is well linked. -/
theorem wellLinked_ofTerm (root : Term) : (ofTerm root).WellLinked where
  nonempty := by
    rw [size_ofTerm]
    exact root.size_pos
  root := by
    intro id bound
    rw [size_ofTerm] at bound
    obtain ⟨node, inTree, rfl⟩ := exists_node_of_lt bound
    rcases Node.eq_or_exists_parent inTree with rfl | ⟨outer, outerInTree, isChild⟩
    · rw [parent?, getElem?_ofTerm_zero]
      exact ⟨fun _ => rfl, fun _ => rfl⟩
    · have positive := Node.id_lt_of_mem_children isChild
      rw [parent?_ofTerm_eq_some_iff.mpr ⟨outer, outerInTree, node, isChild, rfl, rfl⟩]
      exact iff_of_false (Option.some_ne_none _) (Nat.ne_of_gt (Nat.zero_lt_of_lt positive))
  parent_lt := by
    intro id parent link
    obtain ⟨outer, -, child, isChild, rfl, rfl⟩ := parent?_ofTerm_eq_some_iff.mp link
    exact Node.id_lt_of_mem_children isChild
  children_lt := by
    intro id child named
    obtain ⟨outer, inTree, inner, isChild, rfl, -⟩ := mem_children_ofTerm_iff.mp named
    have bounds := Node.mem_subtree_id_bounds
      (Node.mem_subtree_trans (Node.mem_subtree_of_mem_children isChild) inTree)
    rw [size_ofTerm]
    exact Nat.zero_add root.size ▸ bounds.2
  ascending := by
    intro id
    by_cases bound : id < root.size
    · obtain ⟨node, inTree, rfl⟩ := exists_node_of_lt bound
      rw [children_ofTerm inTree, List.pairwise_map, Node.children_eq]
      exact Node.pairwise_numbered _ _
    · rw [children_ofTerm_of_le (Nat.le_of_not_lt bound)]
      exact List.Pairwise.nil
  mem_children_iff := by
    intro id child
    rw [mem_children_ofTerm_iff, parent?_ofTerm_eq_some_iff]
  contiguous := by
    intro id bound
    rw [size_ofTerm] at bound
    obtain ⟨node, inTree, rfl⟩ := exists_node_of_lt bound
    refine ⟨node.term.size - 1, fun other => ?_⟩
    rw [← Node.exists_below_iff]
    constructor
    · exact exists_below_of_descends inTree
    · rintro ⟨inner, below, rfl⟩
      exact descends_of_below inTree below

end

end Arena

/-! ### The listing of a source tree -/

namespace SourceTree

theorem id_of_getElem?_nodes {tree : SourceTree} {position : Nat} {node : Node}
    (found : tree.nodes[position]? = some node) : node.id = position := by
  rw [nodes, List.getElem?_map, List.getElem?_zipIdx, Option.map_map,
    Option.map_eq_some_iff] at found
  obtain ⟨term, -, rfl⟩ := found
  exact Nat.zero_add position

theorem lookup_eq_of_mem_iff {pairs : List (Nat × Nat)} {key : Nat} {value : Option Nat}
    (paired : ∀ other, (key, other) ∈ pairs ↔ value = some other) :
    pairs.lookup key = value := by
  cases found : pairs.lookup key with
  | none =>
    cases value with
    | none => rfl
    | some other =>
      have absent := List.lookup_eq_none_iff.mp found _ ((paired other).mpr rfl)
      simp at absent
  | some other =>
    obtain ⟨before, after, split, -⟩ := List.lookup_eq_some_iff.mp found
    refine ((paired other).mp ?_).symm
    rw [split]
    exact List.mem_append_right _ List.mem_cons_self

/-- The parent that is looked up for a node is the one that its row names. -/
theorem lookup_parents (tree : SourceTree) (id : Nat) :
    tree.parents.lookup id = (Arena.ofTerm tree.root).parent? id := by
  refine lookup_eq_of_mem_iff fun parent => ?_
  rw [Arena.parent?_ofTerm_eq_some_iff, parents, List.mem_flatMap, nodes_eq]
  refine exists_congr fun outer => and_congr_right fun _ => ?_
  simp only [List.mem_map, Prod.mk.injEq]

/-- The rows of a tree are those of the table of its root. -/
theorem rows_eq (tree : SourceTree) : tree.rows = (Arena.ofTerm tree.root).rows.toList := by
  refine List.ext_getElem? fun id => ?_
  have listed : (Arena.ofTerm tree.root).rows.toList[id]? = (Arena.ofTerm tree.root).rows[id]? :=
    Array.getElem?_toList
  rw [listed, rows, List.getElem?_map]
  cases found : tree.nodes[id]? with
  | none =>
    have outside := List.getElem?_eq_none_iff.mp found
    have count : tree.nodes.length = tree.root.size := by
      rw [← Term.length_preorder, nodes, List.length_map, List.length_zipIdx]
    rw [Array.getElem?_eq_none (by rw [Arena.size_ofTerm]; omega)]
    rfl
  | some node =>
    obtain rfl := id_of_getElem?_nodes found
    obtain ⟨parent, located⟩ := Arena.exists_row_of_mem_subtree (List.mem_of_getElem? found)
    have named : (Arena.ofTerm tree.root).parent? node.id = parent := by
      rw [Arena.parent?, located]
      rfl
    rw [located, Option.map_some, lookup_parents, named]
    rfl

end SourceTree

end ErrorLint
