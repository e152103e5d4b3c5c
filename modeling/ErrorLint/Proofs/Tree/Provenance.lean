/-
This file traces every term of a lowered tree back to the concrete node from which it
was made. Lowering drops nodes and looks through others, but it makes none up: a plan
names nodes of the concrete tree only, so each term below a lowered tree is the lowering
of one of its nodes. What is known of all spans of the concrete tree is therefore known
of all spans of the lowered one, and the name of an identifier is the text of its span.

Lines and columns are those that the grammar gives. If it has counted them from the text,
every node of the lowered tree has the line and the column of its first byte.
-/

import ErrorLint.Proofs.Text.Cutting
import ErrorLint.Proofs.Tree.Subtree
import ErrorLint.Source.Unit

namespace ErrorLint

namespace Concrete

/-! ### What a plan names lies below -/

theorem mem_nodes_of_mem_parts {child tree : Concrete} (member : child ∈ tree.parts) :
    child ∈ tree.nodes :=
  mem_nodes_of_mem_children (List.mem_filter.mp member).1 (self_mem_nodes child)

theorem mem_nodes_of_field? {child tree : Concrete} {name : String}
    (found : tree.field? name = some child) : child ∈ tree.nodes :=
  mem_nodes_of_mem_children (List.mem_of_find?_eq_some found) (self_mem_nodes child)

mutual

theorem unwrap_mem_nodes (tree : Concrete) : tree.unwrap ∈ tree.nodes := by
  obtain ⟨label, children⟩ := tree
  rw [unwrap]
  split
  · cases found : unwrapFirst children with
    | none => exact self_mem_nodes _
    | some inner => exact List.mem_cons_of_mem _ (mem_nodesOf_of_unwrapFirst children inner found)
  · exact self_mem_nodes _

theorem mem_nodesOf_of_unwrapFirst (list : List Concrete) (inner : Concrete)
    (found : unwrapFirst list = some inner) : inner ∈ nodesOf list := by
  cases list with
  | nil => simp [unwrapFirst] at found
  | cons tree rest =>
    rw [unwrapFirst] at found
    rw [nodesOf]
    split at found
    · have inside := unwrap_mem_nodes tree
      rw [Option.some.inj found] at inside
      exact List.mem_append_left _ inside
    · exact List.mem_append_right _ (mem_nodesOf_of_unwrapFirst rest inner found)

end

end Concrete

namespace Lowering

open Concrete (mem_nodes_of_mem_parts mem_nodes_of_field? mem_nodes_trans)

theorem mem_nodes_of_superclassAmong {parts : List Concrete} {superclass : Concrete}
    (found : superclassAmong parts = some superclass) :
    ∃ part ∈ parts, superclass ∈ part.nodes := by
  induction parts with
  | nil => cases found
  | cons part rest inductionHypothesis =>
    simp only [superclassAmong] at found
    split at found
    · exact ⟨part, List.mem_cons_self, mem_nodes_of_field? found⟩
    · obtain ⟨other, member, inside⟩ := inductionHypothesis found
      exact ⟨other, List.mem_cons_of_mem _ member, inside⟩
    · obtain rfl := Option.some.inj found
      exact ⟨_, List.mem_cons_self, Concrete.self_mem_nodes _⟩

theorem mem_nodes_of_superclass? {tree superclass : Concrete}
    (found : superclass? tree = some superclass) : superclass ∈ tree.nodes := by
  obtain ⟨heritage, located, inner⟩ := Option.bind_eq_some_iff.mp found
  obtain ⟨part, member, inside⟩ := mem_nodes_of_superclassAmong inner
  have inHeritage := mem_nodes_trans inside (mem_nodes_of_mem_parts member)
  exact mem_nodes_trans inHeritage (mem_nodes_of_mem_parts (List.mem_of_find?_eq_some located))

theorem mem_nodes_of_mem_substitutions {tree child : Concrete}
    (member : child ∈ substitutions tree) : child ∈ tree.nodes := by
  obtain ⟨hole, inHoles, first⟩ := List.mem_filterMap.mp member
  exact mem_nodes_trans (mem_nodes_of_mem_parts (List.mem_of_mem_head? first))
    (mem_nodes_of_mem_parts (List.mem_filter.mp inHoles).1)

/-- Callee and arguments of a construction or a call. -/
theorem mem_nodes_of_callee_or_argument {tree callee arguments child : Concrete}
    {role : String} (calleeFound : tree.field? role = some callee)
    (argumentsFound : tree.field? "arguments" = some arguments)
    (member : child ∈ callee :: arguments.parts) : child ∈ tree.nodes := by
  rcases List.mem_cons.mp member with rfl | inArguments
  · exact mem_nodes_of_field? calleeFound
  · exact mem_nodes_trans (mem_nodes_of_mem_parts inArguments) (mem_nodes_of_field? argumentsFound)

/-- Every node that fills a role is a node of the planned tree. -/
theorem mem_nodes_of_mem_plan {text : List Char} {tree child : Concrete}
    (member : child ∈ (plan text tree).children) : child ∈ tree.nodes := by
  have keptParts : ∀ inner ∈ (plain tree).children, inner ∈ tree.nodes :=
    fun inner inParts => mem_nodes_of_mem_parts inParts
  unfold plan at member
  split at member
  case h_1 => exact mem_nodes_of_mem_parts member
  case h_2 => exact mem_nodes_of_mem_parts (List.mem_of_mem_head? (Option.mem_toList.mp member))
  case h_3 =>
    split at member
    · rename_i callee calleeFound
      split at member
      · rename_i arguments argumentsFound
        exact mem_nodes_of_callee_or_argument calleeFound argumentsFound member
      · obtain rfl := List.mem_singleton.mp member
        exact mem_nodes_of_field? calleeFound
    · exact keptParts child member
  case h_4 =>
    split at member
    · rename_i callee arguments calleeFound argumentsFound
      split at member
      · exact mem_nodes_of_callee_or_argument calleeFound argumentsFound member
      · exact keptParts child member
    · exact keptParts child member
  case h_11 => exact mem_nodes_of_mem_substitutions member
  case h_15 | h_16 =>
    split at member
    · obtain rfl := List.mem_singleton.mp member
      exact mem_nodes_of_field? (by assumption)
    · exact keptParts child member
  case h_17 => exact mem_nodes_of_mem_parts member
  case h_18 | h_19 =>
    simp only [Form.children, List.mem_append, Option.mem_toList] at member
    rcases member with (inName | inSuperclass) | inBody
    · exact mem_nodes_of_field? inName
    · exact mem_nodes_of_superclass? inSuperclass
    · exact mem_nodes_of_field? inBody
  case h_21 => exact keptParts child member
  all_goals cases member

/-! ### Every term comes from a node -/

/-- Every term of a lowered tree is the lowering of a node of the concrete tree. -/
theorem exists_node_of_mem_preorder {text : List Char} {tree : Concrete} {term : Term}
    (member : term ∈ (lower text tree).preorder) :
    ∃ inner ∈ tree.nodes, term = lower text inner := by
  induction bound : tree.size using Nat.strongRecOn generalizing tree with
  | ind size inductionHypothesis =>
    subst bound
    rw [Term.preorder_eq] at member
    rcases List.mem_cons.mp member with rfl | below
    · exact ⟨tree, Concrete.self_mem_nodes tree, rfl⟩
    · obtain ⟨lowered, isChild, inChild⟩ := List.mem_flatMap.mp below
      rw [lower_eq, Term.form, Form.children_map] at isChild
      obtain ⟨child, planned, rfl⟩ := List.mem_map.mp isChild
      have smaller : child.size < tree.size :=
        Nat.lt_of_lt_of_le (size_lt_of_mem_plan planned) (Concrete.size_unwrap_le tree)
      obtain ⟨inner, inside, equal⟩ := inductionHypothesis child.size smaller inChild rfl
      have childInside : child ∈ tree.nodes :=
        mem_nodes_trans (mem_nodes_of_mem_plan planned) (Concrete.unwrap_mem_nodes tree)
      exact ⟨inner, mem_nodes_trans inside childInside, equal⟩

/-- Only a node that is spelled out is planned as an identifier, and its name is its text. -/
theorem eq_textOf_of_plan {text : List Char} {tree : Concrete} {name : String}
    (planned : plan text tree = .identifier name) : name = textOf text tree := by
  unfold plan at planned
  split at planned
  case h_3 =>
    split at planned
    · split at planned <;> cases planned
    · cases planned
  case h_4 =>
    split at planned
    · split at planned <;> cases planned
    · cases planned
  case h_12 | h_13 | h_14 => exact (Form.identifier.inj planned).symm
  case h_15 | h_16 => split at planned <;> cases planned
  all_goals cases planned

end Lowering

/-! ### What lowered trees say about the source -/

/-- A concrete tree has valid spans if every node of it has one. -/
def Concrete.HasValidSpans (text : List Char) (tree : Concrete) : Prop :=
  ∀ inner ∈ tree.nodes, inner.span.Valid text

instance (text : List Char) (tree : Concrete) : Decidable (tree.HasValidSpans text) :=
  inferInstanceAs (Decidable (∀ inner ∈ tree.nodes, inner.span.Valid text))

/-- A parser has valid spans if the tree of every text has spans that are valid for it. -/
def Parser.HasValidSpans (parser : Parser) : Prop :=
  ∀ source dialect, (parser source dialect).root.HasValidSpans source.toList

/-- A term is faithful to a text if its span is valid there and an identifier is spelled
as the text of its span. -/
structure Term.IsFaithful (text : List Char) (term : Term) : Prop where
  valid : term.place.span.Valid text
  spelled : ∀ name, term.form = .identifier name →
    name.toList = Text.between text term.place.span.start term.place.span.stop

theorem Lowering.isFaithful_lower {text : List Char} {tree : Concrete}
    (valid : tree.HasValidSpans text) : (lower text tree).IsFaithful text := by
  rw [lower_eq]
  constructor
  case valid => exact valid _ (Concrete.unwrap_mem_nodes tree)
  case spelled =>
    intro name named
    have planned : plan text tree.unwrap = .identifier name := by
      cases equal : plan text tree.unwrap <;> rw [equal] at named <;> cases named
      rfl
    rw [eq_textOf_of_plan planned, textOf, String.toList_ofList]
    rfl

/-- Every node of the tree of a source text is faithful to the text. -/
theorem SourceTree.isFaithful_of_mem_nodes {parser : Parser} (valid : parser.HasValidSpans)
    {source : String} {dialect : Dialect} {node : Node}
    (member : node ∈ (SourceTree.ofSource parser source dialect).nodes) :
    node.term.IsFaithful source.toList := by
  obtain ⟨inner, inside, equal⟩ := Lowering.exists_node_of_mem_preorder (term_mem_preorder member)
  rw [equal]
  exact Lowering.isFaithful_lower fun deeper below =>
    valid source dialect deeper (Concrete.mem_nodes_trans below inside)

/-- A concrete tree is counted if the rows and columns of its nodes are those of the bytes
at which the nodes start. -/
def Concrete.IsCounted (text : List Char) (tree : Concrete) : Prop :=
  ∀ inner ∈ tree.nodes, inner.place = Place.ofSpan text inner.span

instance (text : List Char) (tree : Concrete) : Decidable (tree.IsCounted text) :=
  inferInstanceAs (Decidable (∀ inner ∈ tree.nodes, inner.place = Place.ofSpan text inner.span))

/-- The place of a node of a counted tree follows from its span. -/
theorem SourceTree.place_of_mem_nodes {parser : Parser} {source : String} {dialect : Dialect}
    (counted : (parser source dialect).root.IsCounted source.toList) {node : Node}
    (member : node ∈ (SourceTree.ofSource parser source dialect).nodes) :
    node.place = Place.ofSpan source.toList node.span := by
  obtain ⟨inner, inside, equal⟩ := Lowering.exists_node_of_mem_preorder (term_mem_preorder member)
  rw [Node.span, Node.place, equal, Lowering.lower_eq]
  exact counted _ (Concrete.mem_nodes_trans (Concrete.unwrap_mem_nodes inner) inside)

end ErrorLint
