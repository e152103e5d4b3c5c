/-
This file says from which places a plan takes the nodes that it names. Some are children of the
planned node, others stand deeper: in the list of arguments, in a hole of a template, in the
heritage of a class. All of them are picked going over the children from left to right, and from
each child either the child itself is picked, or something below it, or nothing. Nodes picked in
this way are at different places, none below another one, in the order of the source; and
picking from what was picked is picking again, so looking through parentheses changes none of
this.

A plan looks up some children by their fields, and lists them in an order of its own. Where the
fields of a node stand in the order in which its plan lists them, the plan picks.
-/

import ErrorLint.Proofs.Tree.Subtree
import ErrorLint.Tree.Lowering
import Mathlib.Data.List.Basic

namespace ErrorLint

namespace Concrete

/-! ### Picking from siblings -/

/-- Nodes are picked from siblings and from what stands below them, from left to right. -/
inductive Picks : List Concrete → List Concrete → Prop where
  | nil : Picks [] []
  | skip (tree : Concrete) {rest picked : List Concrete} (others : Picks rest picked) :
    Picks (tree :: rest) picked
  | take (tree : Concrete) {rest picked : List Concrete} (others : Picks rest picked) :
    Picks (tree :: rest) (tree :: picked)
  | inside (tree : Concrete) {rest inner picked : List Concrete}
    (deeper : Picks tree.children inner)
    (others : Picks rest picked) : Picks (tree :: rest) (inner ++ picked)

theorem Picks.of_sublist {siblings picked : List Concrete} (sublist : picked.Sublist siblings) :
    Picks siblings picked := by
  induction sublist with
  | slnil => exact .nil
  | cons tree _ inductionHypothesis => exact .skip tree inductionHypothesis
  | cons_cons tree _ inductionHypothesis => exact .take tree inductionHypothesis

theorem Picks.of_mem {siblings : List Concrete} {tree : Concrete} (member : tree ∈ siblings) :
    Picks siblings [tree] :=
  .of_sublist (List.singleton_sublist.mpr member)

theorem Picks.of_children {tree : Concrete} {picked : List Concrete}
    (picks : Picks tree.children picked) : Picks [tree] picked := by
  have alone := Picks.inside tree picks .nil
  rwa [List.append_nil] at alone

theorem Picks.append {left right leftPicked rightPicked : List Concrete}
    (first : Picks left leftPicked) (second : Picks right rightPicked) :
    Picks (left ++ right) (leftPicked ++ rightPicked) := by
  induction first with
  | nil => exact second
  | skip tree _ inductionHypothesis => exact .skip tree inductionHypothesis
  | take tree _ inductionHypothesis => exact .take tree inductionHypothesis
  | inside tree deeper _ _ inductionHypothesis =>
    rw [List.append_assoc]
    exact .inside tree deeper inductionHypothesis

/-- Picking from each of the picked nodes is picking from the siblings. -/
theorem Picks.bind {siblings picked : List Concrete} (picks : Picks siblings picked)
    (choose : Concrete → List Concrete) (chosen : ∀ tree ∈ picked, Picks [tree] (choose tree)) :
    Picks siblings (picked.flatMap choose) := by
  induction picks with
  | nil => exact .nil
  | skip tree _ inductionHypothesis => exact .skip tree (inductionHypothesis chosen)
  | @take tree rest picked _ inductionHypothesis =>
    rw [List.forall_mem_cons] at chosen
    rw [List.flatMap_cons]
    exact chosen.1.append (inductionHypothesis chosen.2)
  | inside tree deeper _ first second =>
    rw [List.forall_mem_append] at chosen
    rw [List.flatMap_append]
    exact .inside tree (first chosen.1) (second chosen.2)

/-- What parentheses stand for is picked from them. -/
theorem picks_unwrap (tree : Concrete) : Picks [tree] [tree.unwrap] := by
  induction bound : tree.size using Nat.strongRecOn generalizing tree with
  | ind size inductionHypothesis =>
    subst bound
    by_cases parenthesized : tree.kind = .parenthesized
    · cases first : tree.parts.head? with
      | none =>
        rw [unwrap_of_head?_eq_none first]
        exact .take tree .nil
      | some part =>
        have isPart := List.mem_of_mem_head? first
        have inner := inductionHypothesis part.size (size_lt_of_mem_parts isPart) part rfl
        rw [unwrap_of_head?_eq_some parenthesized first]
        refine .of_children ?_
        have isChild := Picks.of_mem (List.mem_filter.mp isPart).1
        exact isChild.bind (fun _ => [part.unwrap]) fun other isOther =>
          List.mem_singleton.mp isOther ▸ inner
    · rw [unwrap_of_kind_ne parenthesized]
      exact .take tree .nil

/-! ### Picking by position -/

theorem filterMap_getElem?_cons {head : Concrete} {rest : List Concrete} {indices : List Nat}
    (positive : ∀ index ∈ indices, 0 < index) :
    indices.filterMap ((head :: rest)[·]?) = (indices.map (· - 1)).filterMap (rest[·]?) := by
  rw [List.filterMap_map]
  refine List.filterMap_congr fun index member => ?_
  obtain ⟨before, rfl⟩ := Nat.exists_eq_succ_of_ne_zero (Nat.ne_of_gt (positive index member))
  rfl

/-- Items at ascending positions are a sublist. -/
theorem filterMap_getElem?_sublist (trees : List Concrete) {indices : List Nat}
    (ascending : indices.Pairwise (· < ·)) : (indices.filterMap (trees[·]?)).Sublist trees := by
  induction trees generalizing indices with
  | nil => simp
  | cons head rest inductionHypothesis =>
    have shifted : ∀ indices : List Nat, indices.Pairwise (· < ·) → (∀ index ∈ indices, 0 < index) →
        (indices.filterMap ((head :: rest)[·]?)).Sublist rest := by
      intro indices ascending positive
      rw [filterMap_getElem?_cons positive]
      refine inductionHypothesis (List.pairwise_map.mpr (ascending.imp_of_mem ?_))
      intro left right leftIn _ less
      have leftPositive := positive left leftIn
      omega
    cases indices with
    | nil => exact List.nil_sublist _
    | cons index more =>
      obtain ⟨behind, ascendingMore⟩ := List.pairwise_cons.mp ascending
      have positiveMore : ∀ other ∈ more, 0 < other := fun other member =>
        Nat.zero_lt_of_lt (behind other member)
      cases index with
      | zero => exact (shifted more ascendingMore positiveMore).cons_cons head
      | succ index =>
        refine (shifted _ ascending ?_).cons head
        exact List.forall_mem_cons.mpr ⟨Nat.succ_pos index, positiveMore⟩

/-- Choices are picked, if what they choose from are siblings from left to right. -/
theorem picks_of_choices {siblings : List Concrete} {choices : List (Concrete × List Concrete)}
    (sublist : (choices.map Prod.fst).Sublist siblings)
    (chosen : ∀ choice ∈ choices, Picks [choice.1] choice.2) :
    Picks siblings (choices.flatMap Prod.snd) := by
  induction siblings generalizing choices with
  | nil =>
    rw [List.sublist_nil, List.map_eq_nil_iff] at sublist
    rw [sublist]
    exact .nil
  | cons head rest inductionHypothesis =>
    rcases List.sublist_cons_iff.mp sublist with skipped | ⟨later, taken, subrest⟩
    · exact .skip head (inductionHypothesis skipped chosen)
    · obtain ⟨choice, others, rfl, rfl, rfl⟩ := List.map_eq_cons_iff.mp taken
      rw [List.forall_mem_cons] at chosen
      rw [List.flatMap_cons]
      exact chosen.1.append (inductionHypothesis subrest chosen.2)

/-- Whether a child stands in a field. -/
def standsIn (name : String) (child : Concrete) : Bool := child.label.field = some name

/-- Whether a child is the heritage of a class. -/
def isHeritage (child : Concrete) : Bool := child.isPart && child.kind = .classHeritage

end Concrete

/-- The children that a plan looks up, in the order in which it lists them or what is below
them. -/
def Kind.lookups : Kind → List (Concrete → Bool)
  | .newExpression => [Concrete.standsIn "constructor", Concrete.standsIn "arguments"]
  | .callExpression => [Concrete.standsIn "function", Concrete.standsIn "arguments"]
  | .classDeclaration | .abstractClassDeclaration =>
    [Concrete.standsIn "name", Concrete.isHeritage, Concrete.standsIn "body"]
  | _ => []

namespace Concrete

/-- The children that the plan of a node looks up stand in the order in which it lists them, as
far as they are there: a class to construct or a function to call in front of the arguments, and
the name of a class, its heritage and its body one behind the other. A heritage that stands in
one of the other fields is not behind itself, so this excludes that a child is looked up twice. -/
def IsArranged (tree : Concrete) : Prop :=
  (tree.kind.lookups.filterMap tree.children.findIdx?).Pairwise (· < ·)

instance (tree : Concrete) : Decidable tree.IsArranged :=
  inferInstanceAs (Decidable (List.Pairwise _ _))

/-- Children that are looked up are picked, if they stand in the order of the look-ups. -/
theorem picks_of_lookups {children : List Concrete}
    (lookups : List ((Concrete → Bool) × (Concrete → List Concrete)))
    (ascending : ((lookups.map Prod.fst).filterMap children.findIdx?).Pairwise (· < ·))
    (chosen : ∀ lookup ∈ lookups, ∀ tree, Picks [tree] (lookup.2 tree)) :
    Picks children
      (lookups.flatMap fun lookup => ((children.find? lookup.1).map lookup.2).getD []) := by
  let choice (lookup : (Concrete → Bool) × (Concrete → List Concrete)) :
      Option (Concrete × List Concrete) :=
    (children.find? lookup.1).map fun found => (found, lookup.2 found)
  have sublist : ((lookups.filterMap choice).map Prod.fst).Sublist children := by
    have located := filterMap_getElem?_sublist children ascending
    rw [List.filterMap_filterMap, List.filterMap_map] at located
    rw [List.map_filterMap]
    refine Eq.subst (motive := (List.Sublist · children)) ?_ located
    refine List.filterMap_congr fun lookup _ => ?_
    rw [Function.comp_apply, ← List.find?_eq_bind_findIdx?_getElem?, Option.map_map]
    exact Option.map_id'.symm
  have picked : (lookups.filterMap choice).flatMap Prod.snd =
      lookups.flatMap fun lookup => ((children.find? lookup.1).map lookup.2).getD [] := by
    rw [List.filterMap_eq_flatMap_toList, List.flatMap_assoc]
    refine List.flatMap_congr fun lookup _ => ?_
    dsimp only [choice]
    cases children.find? lookup.1 with
    | none => rfl
    | some found => exact List.flatMap_singleton Prod.snd _
  rw [← picked]
  refine picks_of_choices sublist fun chosenPair member => ?_
  obtain ⟨lookup, listed, made⟩ := List.mem_filterMap.mp member
  obtain ⟨found, -, rfl⟩ := Option.map_eq_some_iff.mp made
  exact chosen lookup listed found

end Concrete

namespace Lowering

open Concrete

/-! ### What a plan names is picked -/

theorem picks_parts (tree : Concrete) : Picks tree.children tree.parts :=
  .of_sublist List.filter_sublist

theorem picks_firstPart (tree : Concrete) : Picks tree.children tree.parts.head?.toList := by
  rw [← List.take_one]
  exact .of_sublist ((List.take_sublist 1 _).trans List.filter_sublist)

theorem picks_field (tree : Concrete) (name : String) :
    Picks tree.children (tree.field? name).toList := by
  cases found : tree.field? name with
  | none => exact .of_sublist (List.nil_sublist _)
  | some child => exact .of_mem (List.mem_of_find?_eq_some found)

theorem picks_substitutions (tree : Concrete) : Picks tree.children (substitutions tree) := by
  rw [substitutions, List.filterMap_eq_flatMap_toList]
  have holes : Picks tree.children (tree.parts.filter (·.kind = .templateSubstitution)) :=
    .of_sublist (List.filter_sublist.trans List.filter_sublist)
  exact holes.bind _ fun hole _ => .of_children (picks_firstPart hole)

/-- The superclass is picked from the heritage. -/
theorem picks_superclassAmong (heritage : Concrete) :
    Picks [heritage] (superclassAmong heritage.parts).toList := by
  rw [superclassAmong_eq]
  cases first : heritage.parts.find? (·.kind ≠ .implementsClause) with
  | none => exact .skip heritage .nil
  | some part =>
    have isPart : Picks heritage.children [part] :=
      .of_mem (List.mem_filter.mp (List.mem_of_find?_eq_some first)).1
    refine .of_children ?_
    rw [Option.bind_some]
    split
    · have value := isPart.bind (fun clause => (clause.field? "value").toList)
        fun clause _ => .of_children (picks_field clause "value")
      rwa [List.flatMap_singleton] at value
    · exact isPart

theorem superclass?_eq (tree : Concrete) :
    superclass? tree =
      (tree.children.find? isHeritage).bind fun heritage => superclassAmong heritage.parts := by
  rw [superclass?, parts, List.find?_filter]
  congr 2
  funext child
  simp [isHeritage]

theorem getD_map_singleton (found : Option Concrete) :
    (found.map fun child => [child]).getD [] = found.toList := by
  cases found <;> rfl

/-- What is called or constructed is picked with its arguments. -/
theorem picks_application {tree : Concrete} {name : String}
    (ascending : ([standsIn name, standsIn "arguments"].filterMap
      tree.children.findIdx?).Pairwise (· < ·)) :
    Picks tree.children
      ((tree.field? name).toList ++ ((tree.field? "arguments").map parts).getD []) := by
  have picked := picks_of_lookups
    [(standsIn name, fun callee => [callee]), (standsIn "arguments", parts)]
    ascending ?_
  case refine_1 =>
    rw [List.forall_mem_cons, List.forall_mem_singleton]
    exact ⟨fun callee => .take callee .nil, fun arguments => .of_children (picks_parts arguments)⟩
  rw [List.flatMap_cons, List.flatMap_singleton, getD_map_singleton] at picked
  exact picked

/-- The name, the superclass and the body of a class are picked. -/
theorem picks_class {tree : Concrete}
    (ascending : ([standsIn "name", isHeritage, standsIn "body"].filterMap
      tree.children.findIdx?).Pairwise (· < ·)) :
    Picks tree.children ((tree.field? "name").toList ++ (superclass? tree).toList ++
      (tree.field? "body").toList) := by
  have picked := picks_of_lookups
    [(standsIn "name", fun name => [name]),
      (isHeritage, fun heritage => (superclassAmong heritage.parts).toList),
      (standsIn "body", fun body => [body])]
    ascending ?_
  case refine_1 =>
    rw [List.forall_mem_cons, List.forall_mem_cons, List.forall_mem_singleton]
    exact ⟨fun name => .take name .nil, picks_superclassAmong, fun body => .take body .nil⟩
  have heritage : ((tree.children.find? isHeritage).map fun heritage =>
      (superclassAmong heritage.parts).toList).getD [] = (superclass? tree).toList := by
    rw [superclass?_eq]
    cases tree.children.find? isHeritage <;> rfl
  rw [List.flatMap_cons, List.flatMap_cons, List.flatMap_singleton, getD_map_singleton,
    getD_map_singleton, heritage, ← List.append_assoc] at picked
  exact picked

/-- The nodes that a plan names are picked from the children of the planned node, if they are
arranged. -/
theorem picks_plan (text : List Char) {tree : Concrete} (arranged : tree.IsArranged) :
    Picks tree.children (plan text tree).children := by
  have kept : Picks tree.children (plain tree).children := picks_parts tree
  have alone : ∀ name child, tree.field? name = some child → Picks tree.children [child] :=
    fun name child found => .of_mem (List.mem_of_find?_eq_some found)
  unfold IsArranged at arranged
  unfold plan
  split
  case h_1 => exact picks_parts tree
  case h_2 => exact picks_firstPart tree
  case h_3 kind =>
    rw [kind] at arranged
    have picked := picks_application arranged
    split
    · rename_i callee constructor
      rw [constructor] at picked
      split <;> rename_i found <;> rw [found] at picked <;> exact picked
    · exact kept
  case h_4 kind =>
    rw [kind] at arranged
    have picked := picks_application arranged
    split
    · rename_i callee arguments function found
      rw [function, found] at picked
      split
      · exact picked
      · exact kept
    · exact kept
  case h_11 => exact picks_substitutions tree
  case h_15 =>
    split
    · rename_i operator argument _ found
      exact alone _ argument found
    · exact kept
  case h_16 =>
    split
    · rename_i owner property found _
      exact alone _ owner found
    · exact kept
  case h_17 => exact picks_parts tree
  case h_18 kind | h_19 kind =>
    rw [kind] at arranged
    exact picks_class arranged
  case h_21 => exact kept
  all_goals exact .of_sublist (List.nil_sublist _)

end Lowering

end ErrorLint
