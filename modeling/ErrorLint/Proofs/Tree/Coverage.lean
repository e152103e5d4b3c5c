/-
This file says what lowering does not lose. A plan picks the nodes that fill the roles of a
form by hand, so a part that it does not pick is lost with everything below it. Nodes of
most kinds keep all their parts; for the others it takes the grammar to know that there is
nothing else to pick: a throw has one operand, a construction has a class and arguments, a
name has no parts at all.

On a tree of that shape the way from the root down to a throw, a construction or a call is
followed step by step. Where the plan picks the next part the step is one of the lowered
tree as well, and where it looks further down, for the arguments of a call, the holes of a
template or the superclass, two or three steps are one. Parentheses are the same the other
way round. So the node is found in the lowered tree, and every rule is shown it.

Two kinds of parts are code and are lost all the same: the decorators of a class declaration
and, if an extends clause has several values, all of them but one.
-/

import ErrorLint.Proofs.Linter.Traversal
import ErrorLint.Proofs.Tree.Roles
import Mathlib.Tactic.MkIffOfInductiveProp

namespace ErrorLint

/-! ### The shape of the grammar -/

/-- The fields that hold the parts of a node, for the kinds of which lowering does not keep
all parts. -/
def Kind.fields? : Kind → Option (List String)
  | .newExpression => some ["constructor", "arguments"]
  | .callExpression => some ["function", "arguments"]
  | .unaryExpression => some ["argument"]
  | .memberExpression => some ["object"]
  | .classDeclaration | .abstractClassDeclaration => some ["name", "body"]
  | .extendsClause => some ["value"]
  | .string | .number | .trueLiteral | .falseLiteral | .nullLiteral | .regex | .templateString
  | .identifier | .typeIdentifier | .undefinedName => some []
  | _ => none

/-- The kind of the parts that stand in no field: the holes of a template and the heritage of a
class. -/
def Kind.loose? : Kind → Option Kind
  | .templateString => some .templateSubstitution
  | .classDeclaration | .abstractClassDeclaration => some .classHeritage
  | _ => none

namespace Concrete

/-- Types, and text that the grammar could not read. -/
def IsForeign (tree : Concrete) : Prop :=
  tree.kind = .implementsClause ∨
    tree.label.symbol ∈ ["type_annotation", "type_arguments", "type_parameters", "ERROR"]

instance (tree : Concrete) : Decidable tree.IsForeign :=
  inferInstanceAs (Decidable (_ ∨ _))

/-- A part holds no code that runs: it stands in an import, or it is foreign. -/
def Excludes (tree part : Concrete) : Prop := tree.kind = .importStatement ∨ part.IsForeign

instance (tree part : Concrete) : Decidable (tree.Excludes part) :=
  inferInstanceAs (Decidable (_ ∨ _))

/-- A class declaration is decorated by a part. -/
def IsDecoratedBy (tree part : Concrete) : Prop :=
  tree.kind.IsClass ∧ part.label.symbol = "decorator"

instance (tree part : Concrete) : Decidable (tree.IsDecoratedBy part) :=
  inferInstanceAs (Decidable (_ ∧ _))

/-- A part is overlooked: it holds no code, or it decorates a class declaration. -/
def Overlooks (tree part : Concrete) : Prop := tree.Excludes part ∨ tree.IsDecoratedBy part

instance (tree part : Concrete) : Decidable (tree.Overlooks part) :=
  inferInstanceAs (Decidable (_ ∨ _))

/-- The shape of a throw, a construction of a class, or a call with a list of arguments. -/
def raising? (tree : Concrete) : Option Shape :=
  match tree.kind with
  | .throwStatement => some .throwing
  | .newExpression => (tree.field? "constructor").map fun _ => .construction
  | .callExpression => ((tree.field? "arguments").filter (·.kind = .arguments)).map fun _ => .call
  | _ => none

/-- A node has no parts, and it is nothing to look for itself. -/
def IsBare (tree : Concrete) : Prop := tree.parts = [] ∧ tree.raising? = none

instance (tree : Concrete) : Decidable tree.IsBare := inferInstanceAs (Decidable (_ ∧ _))

/-- The parts of a node are those that the grammar gives to its kind. -/
@[mk_iff]
structure IsRegular (tree : Concrete) : Prop where
  /-- A part stands in one of the fields, or it is told by its kind. -/
  placed : ∀ names ∈ tree.kind.fields?, ∀ part ∈ tree.parts,
    tree.Overlooks part ∨ part.IsBare ∨ tree.kind.loose? = some part.kind ∨
      ∃ name ∈ names, part.label.field = some name
  /-- No field is filled twice. -/
  once : ∀ names ∈ tree.kind.fields?, ∀ name ∈ names,
    tree.children.countP (·.label.field = some name) ≤ 1
  /-- A class has one heritage. -/
  oneHeritage : tree.parts.countP (·.kind = .classHeritage) ≤ 1
  /-- A heritage names one superclass. -/
  oneSuperclass : tree.kind = .classHeritage →
    ∀ part ∈ (tree.parts.filter (·.kind ≠ .implementsClause)).tail, part.IsForeign
  /-- A throw, a hole of a template and parentheses have one operand. -/
  oneOperand : tree.kind ∈ [Kind.throwStatement, .templateSubstitution, .parenthesized] →
    ∀ part ∈ tree.parts.tail, part.IsForeign
  /-- A class is constructed from a list of arguments. -/
  listsArguments : tree.kind = .newExpression →
    ∀ arguments ∈ tree.field? "arguments", arguments.kind = .arguments
  /-- A call calls something. -/
  callsFunction : tree.kind = .callExpression → (tree.field? "function").isSome = true

instance (tree : Concrete) : Decidable tree.IsRegular :=
  decidable_of_iff' _ (isRegular_iff tree)

/-! ### Down the parts of a tree -/

/-- A node is reached from a tree through parts none of which is skipped. -/
inductive Reaches (skips : Concrete → Concrete → Prop) : Concrete → Concrete → Prop where
  | here (tree : Concrete) : Reaches skips tree tree
  | through {tree part target : Concrete} (isPart : part ∈ tree.parts) (kept : ¬ skips tree part)
    (onward : Reaches skips part target) : Reaches skips tree target

section

variable {skips : Concrete → Concrete → Prop} {tree part middle target : Concrete}

theorem Reaches.trans (first : Reaches skips tree middle) (second : Reaches skips middle target) :
    Reaches skips tree target := by
  induction first with
  | here tree => exact second
  | through isPart kept onward inductionHypothesis =>
    exact .through isPart kept (inductionHypothesis second)

theorem Reaches.of_mem_parts (isPart : part ∈ tree.parts) (kept : ¬ skips tree part) :
    Reaches skips tree part :=
  .through isPart kept (.here part)

theorem Reaches.mem_nodes (reaches : Reaches skips tree target) : target ∈ tree.nodes := by
  induction reaches with
  | here tree => exact self_mem_nodes tree
  | through isPart kept onward inductionHypothesis =>
    exact mem_nodes_trans inductionHypothesis (mem_nodes_of_mem_parts isPart)

/-- Nothing to look for is reached from a bare node. -/
theorem Reaches.raising?_of_isBare (reaches : Reaches skips tree target) (bare : tree.IsBare) :
    target.raising? = none := by
  cases reaches with
  | here => exact bare.2
  | through isPart kept onward =>
    rw [bare.1] at isPart
    cases isPart

end

/-! ### Lists with one item of a kind -/

/-- The only item with a property is the one that is found. -/
theorem find?_eq_some_of_countP_le_one {list : List Concrete} {holds : Concrete → Bool}
    {item : Concrete} (member : item ∈ list) (itemHolds : holds item = true)
    (unique : list.countP holds ≤ 1) : list.find? holds = some item := by
  induction list with
  | nil => cases member
  | cons head rest inductionHypothesis =>
    by_cases headHolds : holds head = true
    · rw [List.find?_cons_of_pos headHolds]
      rcases List.mem_cons.mp member with rfl | later
      · rfl
      · have others : 0 < rest.countP holds := List.countP_pos_iff.mpr ⟨item, later, itemHolds⟩
        rw [List.countP_cons_of_pos headHolds] at unique
        omega
    · rw [List.find?_cons_of_neg headHolds]
      rcases List.mem_cons.mp member with rfl | later
      · exact absurd itemHolds headHolds
      · rw [List.countP_cons_of_neg headHolds] at unique
        exact inductionHypothesis later unique

/-- A member that is not in the tail is the head. -/
theorem head?_eq_some_of_notMem_tail {list : List Concrete} {item : Concrete}
    (member : item ∈ list) (notLater : item ∉ list.tail) : list.head? = some item := by
  cases list with
  | nil => cases member
  | cons head rest =>
    rcases List.mem_cons.mp member with rfl | later
    · rfl
    · exact absurd later notLater

/-! ### Ways to what is looked for -/

/-- A way leads from a tree through one of its parts to something to look for, and all nodes
on it are regular. -/
structure Way (tree part target : Concrete) : Prop where
  isPart : part ∈ tree.parts
  kept : ¬ tree.Overlooks part
  onward : Reaches Overlooks part target
  raises : target.raising?.isSome = true
  regular : ∀ node, Reaches Overlooks tree node → Reaches Overlooks node target → node.IsRegular

namespace Way

variable {tree part target : Concrete}

theorem reaches (way : Way tree part target) : Reaches Overlooks tree part :=
  .of_mem_parts way.isPart way.kept

theorem isRegular (way : Way tree part target) : tree.IsRegular :=
  way.regular tree (.here tree) (way.reaches.trans way.onward)

theorem not_isForeign (way : Way tree part target) : ¬ part.IsForeign :=
  fun foreign => way.kept (Or.inl (Or.inr foreign))

/-- The way goes on below a part that is nothing to look for itself. -/
theorem exists_next (way : Way tree part target) (other : part.raising? = none) :
    ∃ inner, Way part inner target := by
  have regular : ∀ node, Reaches Overlooks part node → Reaches Overlooks node target →
      node.IsRegular :=
    fun node below => way.regular node (way.reaches.trans below)
  obtain ⟨-, -, onward, raises, -⟩ := way
  cases onward with
  | here =>
    rw [other] at raises
    cases raises
  | through isPart kept onward => exact ⟨_, isPart, kept, onward, raises, regular⟩

/-- The part on the way is told by its kind, or it is found by its field. -/
theorem field?_eq_some (way : Way tree part target) {names : List String}
    (known : tree.kind.fields? = some names) :
    tree.kind.loose? = some part.kind ∨ ∃ name ∈ names, tree.field? name = some part := by
  rcases way.isRegular.placed names known part way.isPart with
    overlooked | bare | loose | ⟨name, listed, stands⟩
  · exact absurd overlooked way.kept
  · have found := way.raises
    rw [way.onward.raising?_of_isBare bare] at found
    cases found
  · exact Or.inl loose
  · refine Or.inr ⟨name, listed, ?_⟩
    exact find?_eq_some_of_countP_le_one (List.mem_filter.mp way.isPart).1 (decide_eq_true stands)
      (way.isRegular.once names known name listed)

/-- The part on the way is found by its field where none is told by its kind. -/
theorem exists_field (way : Way tree part target) {names : List String}
    (known : tree.kind.fields? = some names) (noneLoose : tree.kind.loose? = none) :
    ∃ name ∈ names, tree.field? name = some part := by
  refine (way.field?_eq_some known).resolve_left ?_
  rw [noneLoose]
  exact nofun

/-- The operand of a throw, of a hole and of parentheses comes first. -/
theorem head?_eq_some (way : Way tree part target)
    (kind : tree.kind ∈ [Kind.throwStatement, .templateSubstitution, .parenthesized]) :
    tree.parts.head? = some part :=
  head?_eq_some_of_notMem_tail way.isPart fun later =>
    way.not_isForeign (way.isRegular.oneOperand kind part later)

end Way

end Concrete

/-! ### A step of the way is a step of the plan -/

namespace Lowering

open Concrete

/-- The plan of a tree leads to a node: it picks a child from which the node is reached. -/
def LeadsTo (text : List Char) (tree target : Concrete) : Prop :=
  ∃ child ∈ (plan text tree).children, Reaches Overlooks tree child ∧
    Reaches Overlooks child target

section

variable {text : List Char} {tree part target : Concrete}

theorem leadsTo_of_mem_plan (way : Way tree part target)
    (picked : part ∈ (plan text tree).children) : LeadsTo text tree target :=
  ⟨part, picked, way.reaches, way.onward⟩

/-- Two steps lead on where the plan picks the parts of a part. -/
theorem leadsTo_of_mem_plan_below {inner : Concrete} (way : Way tree part target)
    (next : Way part inner target) (picked : inner ∈ (plan text tree).children) :
    LeadsTo text tree target :=
  ⟨inner, picked, way.reaches.trans next.reaches, next.onward⟩

/-- The arguments of a construction or a call are picked one by one. -/
theorem leadsTo_of_arguments (way : Way tree part target) (kind : part.kind = .arguments)
    (picked : ∀ argument ∈ part.parts, argument ∈ (plan text tree).children) :
    LeadsTo text tree target := by
  have other : part.raising? = none := by
    rw [raising?, kind]
  obtain ⟨argument, next⟩ := way.exists_next other
  exact leadsTo_of_mem_plan_below way next (picked argument next.isPart)

theorem leadsTo_of_construction (way : Way tree part target) (kind : tree.kind = .newExpression) :
    LeadsTo text tree target := by
  cases constructor : tree.field? "constructor" with
  | none =>
    refine leadsTo_of_mem_plan way ?_
    simp only [plan, kind, constructor]
    exact way.isPart
  | some callee =>
    have known : tree.kind.fields? = some ["constructor", "arguments"] := by
      rw [kind]
      rfl
    obtain ⟨name, listed, stands⟩ := way.exists_field known (by rw [kind]; rfl)
    simp only [List.mem_cons, List.not_mem_nil, or_false] at listed
    rcases listed with rfl | rfl
    · obtain rfl : callee = part := Option.some.inj (constructor.symm.trans stands)
      refine leadsTo_of_mem_plan way ?_
      simp only [plan, kind, constructor]
      split <;> exact List.mem_cons_self
    · refine leadsTo_of_arguments way (way.isRegular.listsArguments kind part stands) ?_
      intro argument isArgument
      simp only [plan, kind, constructor, stands]
      exact List.mem_cons_of_mem _ isArgument

theorem leadsTo_of_call (way : Way tree part target) (kind : tree.kind = .callExpression) :
    LeadsTo text tree target := by
  obtain ⟨callee, function⟩ := Option.isSome_iff_exists.mp (way.isRegular.callsFunction kind)
  have kept : plan text tree = plain tree → LeadsTo text tree target := by
    intro planned
    refine leadsTo_of_mem_plan way ?_
    rw [planned]
    exact way.isPart
  cases argumentsField : tree.field? "arguments" with
  | none => exact kept (by simp only [plan, kind, function, argumentsField])
  | some arguments =>
    by_cases isList : arguments.kind = .arguments
    · have planned : plan text tree = .call callee arguments.parts := by
        simp only [plan, kind, function, argumentsField, if_pos isList]
      have known : tree.kind.fields? = some ["function", "arguments"] := by
        rw [kind]
        rfl
      obtain ⟨name, listed, stands⟩ := way.exists_field known (by rw [kind]; rfl)
      simp only [List.mem_cons, List.not_mem_nil, or_false] at listed
      rcases listed with rfl | rfl
      · obtain rfl : callee = part := Option.some.inj (function.symm.trans stands)
        refine leadsTo_of_mem_plan way ?_
        rw [planned]
        exact List.mem_cons_self
      · obtain rfl : arguments = part := Option.some.inj (argumentsField.symm.trans stands)
        refine leadsTo_of_arguments way isList fun argument isArgument => ?_
        rw [planned]
        exact List.mem_cons_of_mem _ isArgument
    · exact kept (by simp only [plan, kind, function, argumentsField, if_neg isList])

theorem leadsTo_of_template (way : Way tree part target) (kind : tree.kind = .templateString) :
    LeadsTo text tree target := by
  have known : tree.kind.fields? = some [] := by
    rw [kind]
    rfl
  rcases way.field?_eq_some known with loose | ⟨name, listed, -⟩
  · have hole : part.kind = .templateSubstitution := by
      rw [kind] at loose
      exact (Option.some.inj loose).symm
    have other : part.raising? = none := by
      rw [raising?, hole]
    obtain ⟨operand, next⟩ := way.exists_next other
    have first := next.head?_eq_some (by rw [hole]; decide)
    refine leadsTo_of_mem_plan_below way next ?_
    simp only [plan, kind]
    refine List.mem_filterMap.mpr ⟨part, ?_, first⟩
    exact List.mem_filter.mpr ⟨way.isPart, decide_eq_true hole⟩
  · cases listed

/-- What is looked for below the heritage of a class is below the superclass. -/
theorem leadsTo_of_heritage (way : Way tree part target) (kind : part.kind = .classHeritage)
    (picked : ∀ superclass, superclass? tree = some superclass →
      superclass ∈ (plan text tree).children) : LeadsTo text tree target := by
  have located : tree.parts.find? (·.kind = .classHeritage) = some part :=
    find?_eq_some_of_countP_le_one way.isPart (decide_eq_true kind) way.isRegular.oneHeritage
  have other : part.raising? = none := by
    rw [raising?, kind]
  obtain ⟨clause, next⟩ := way.exists_next other
  have notImplementing : clause.kind ≠ .implementsClause :=
    fun same => next.not_isForeign (Or.inl same)
  have first : (part.parts.filter (·.kind ≠ .implementsClause)).head? = some clause := by
    refine head?_eq_some_of_notMem_tail ?_ fun later =>
      next.not_isForeign (next.isRegular.oneSuperclass kind clause later)
    exact List.mem_filter.mpr ⟨next.isPart, decide_eq_true notImplementing⟩
  have found : superclass? tree =
      if clause.kind = .extendsClause then clause.field? "value" else some clause := by
    rw [List.head?_filter] at first
    rw [superclass?, located, Option.bind_some, superclassAmong_eq, first, Option.bind_some]
  by_cases extending : clause.kind = .extendsClause
  · have noRaise : clause.raising? = none := by
      rw [raising?, extending]
    obtain ⟨value, last⟩ := next.exists_next noRaise
    have known : clause.kind.fields? = some ["value"] := by
      rw [extending]
      rfl
    obtain ⟨name, listed, stands⟩ := last.exists_field known (by rw [extending]; rfl)
    obtain rfl := List.mem_singleton.mp listed
    rw [if_pos extending, stands] at found
    exact ⟨value, picked value found, (way.reaches.trans next.reaches).trans last.reaches,
      last.onward⟩
  · rw [if_neg extending] at found
    exact leadsTo_of_mem_plan_below way next (picked clause found)

theorem leadsTo_of_class (way : Way tree part target) (kind : tree.kind.IsClass) :
    LeadsTo text tree target := by
  have planned : plan text tree =
      .classDeclaration (tree.field? "name") (superclass? tree) (tree.field? "body") :=
    plan_of_isClass kind
  have known : tree.kind.fields? = some ["name", "body"] := by
    rcases kind with kind | kind <;> rw [kind] <;> rfl
  rcases way.field?_eq_some known with loose | ⟨name, listed, stands⟩
  · have heritage : part.kind = .classHeritage := by
      rcases kind with kind | kind <;> rw [kind] at loose <;> exact (Option.some.inj loose).symm
    refine leadsTo_of_heritage way heritage fun superclass found => ?_
    rw [planned, found]
    simp [Form.children]
  · refine leadsTo_of_mem_plan way ?_
    simp only [List.mem_cons, List.not_mem_nil, or_false] at listed
    rw [planned]
    rcases listed with rfl | rfl <;> rw [stands] <;> simp [Form.children]

/-- The plan of a node leads on to whatever is looked for below it. -/
theorem leadsTo_of_way (way : Way tree part target)
    (notParenthesized : tree.kind ≠ .parenthesized) : LeadsTo text tree target := by
  have keepsAll : (plan text tree).children = tree.parts → LeadsTo text tree target :=
    fun all => leadsTo_of_mem_plan way (all ▸ way.isPart)
  have standsIn : ∀ names, tree.kind.fields? = some names → tree.kind.loose? = none →
      ∃ name ∈ names, tree.field? name = some part :=
    fun _ => way.exists_field
  cases kind : tree.kind
  case parenthesized => exact absurd kind notParenthesized
  case throwStatement =>
    refine leadsTo_of_mem_plan way ?_
    simp only [plan, kind]
    exact Option.mem_toList.mpr (way.head?_eq_some (by rw [kind]; decide))
  case newExpression => exact leadsTo_of_construction way kind
  case callExpression => exact leadsTo_of_call way kind
  case unaryExpression =>
    obtain ⟨name, listed, stands⟩ := standsIn ["argument"] (by rw [kind]; rfl) (by rw [kind]; rfl)
    obtain rfl := List.mem_singleton.mp listed
    refine leadsTo_of_mem_plan way ?_
    simp only [plan, kind, stands]
    cases tree.field? "operator" with
    | none => exact way.isPart
    | some operator => exact List.mem_singleton_self part
  case memberExpression =>
    obtain ⟨name, listed, stands⟩ := standsIn ["object"] (by rw [kind]; rfl) (by rw [kind]; rfl)
    obtain rfl := List.mem_singleton.mp listed
    refine leadsTo_of_mem_plan way ?_
    simp only [plan, kind, stands]
    cases tree.field? "property" with
    | none => exact way.isPart
    | some property => exact List.mem_singleton_self part
  case templateString => exact leadsTo_of_template way kind
  case classDeclaration => exact leadsTo_of_class way (Or.inl kind)
  case abstractClassDeclaration => exact leadsTo_of_class way (Or.inr kind)
  case importStatement => exact absurd (Or.inl (Or.inl kind)) way.kept
  case string | number | trueLiteral | falseLiteral | nullLiteral | regex | identifier |
      typeIdentifier | undefinedName =>
    obtain ⟨name, listed, -⟩ := standsIn [] (by rw [kind]; rfl) (by rw [kind]; rfl)
    cases listed
  all_goals exact keepsAll (by simp only [plan, kind]; rfl)

/-- Parentheses on the way are lowered as what they enclose. -/
theorem lower_of_parenthesized (way : Way tree part target) (kind : tree.kind = .parenthesized) :
    lower text tree = lower text part := by
  have first := way.head?_eq_some (by rw [kind]; decide)
  rw [lower_eq, lower_eq text part, unwrap_of_head?_eq_some kind first]

theorem mem_preorder_of_mem_plan {child : Concrete} {term : Term}
    (notParenthesized : tree.kind ≠ .parenthesized)
    (picked : child ∈ (plan text tree).children) (inside : term ∈ (lower text child).preorder) :
    term ∈ (lower text tree).preorder := by
  rw [lower_eq, unwrap_of_kind_ne notParenthesized, Term.preorder_eq]
  refine List.mem_cons_of_mem _ (List.mem_flatMap.mpr ⟨lower text child, ?_, inside⟩)
  rw [Term.form, Form.children_map]
  exact List.mem_map_of_mem picked

/-- What is looked for and reached is found in the lowered tree. -/
theorem lower_mem_preorder (text : List Char) (reaches : Reaches Overlooks tree target)
    (raises : target.raising?.isSome = true)
    (regular : ∀ node, Reaches Overlooks tree node → Reaches Overlooks node target →
      node.IsRegular) :
    lower text target ∈ (lower text tree).preorder := by
  induction bound : tree.size using Nat.strongRecOn generalizing tree with
  | ind size inductionHypothesis =>
    subst bound
    cases reaches with
    | here =>
      rw [Term.preorder_eq]
      exact List.mem_cons_self
    | through isPart kept onward =>
      have way : Way tree _ target := ⟨isPart, kept, onward, raises, regular⟩
      by_cases kind : tree.kind = .parenthesized
      · rw [lower_of_parenthesized way kind]
        exact inductionHypothesis _ (Concrete.size_lt_of_mem_parts isPart) onward
          (fun node below => regular node (way.reaches.trans below)) rfl
      · have leads : LeadsTo text tree target := leadsTo_of_way way kind
        obtain ⟨child, picked, toChild, onward⟩ := leads
        refine mem_preorder_of_mem_plan kind picked ?_
        exact inductionHypothesis _ (size_lt_of_mem_plan picked) onward
          (fun node below => regular node (toChild.trans below)) rfl

/-- A throw, a construction and a call are lowered to their shapes, and keep their span. -/
theorem shape_lower (text : List Char) {shape : Shape} (regular : target.IsRegular)
    (raises : target.raising? = some shape) :
    (lower text target).form.shape = shape ∧ (lower text target).place.span = target.span := by
  have notParenthesized : target.kind ≠ .parenthesized := by
    intro kind
    rw [raising?, kind] at raises
    cases raises
  rw [lower_eq, unwrap_of_kind_ne notParenthesized, Term.form, Form.shape_map]
  refine ⟨?_, rfl⟩
  unfold raising? at raises
  split at raises
  · rename_i kind
    simp only [plan, kind]
    exact Option.some.inj raises
  · rename_i kind
    obtain ⟨callee, constructor, rfl⟩ := Option.map_eq_some_iff.mp raises
    simp only [plan, kind, constructor]
    split <;> rfl
  · rename_i kind
    obtain ⟨arguments, filtered, rfl⟩ := Option.map_eq_some_iff.mp raises
    obtain ⟨argumentsField, isList⟩ := Option.filter_eq_some_iff.mp filtered
    obtain ⟨callee, function⟩ := Option.isSome_iff_exists.mp (regular.callsFunction kind)
    simp only [plan, kind, function, argumentsField, if_pos (of_decide_eq_true isList)]
    rfl
  · cases raises

end

end Lowering

namespace SourceTree

theorem exists_node_of_mem_preorder {tree : SourceTree} {term : Term}
    (member : term ∈ tree.root.preorder) : ∃ node ∈ tree.nodes, node.term = term := by
  obtain ⟨position, bound, rfl⟩ := List.getElem_of_mem member
  refine ⟨⟨position, tree.root.preorder[position]⟩, ?_, rfl⟩
  refine List.mem_map.mpr ⟨(tree.root.preorder[position], position), ?_, rfl⟩
  exact List.mem_zipIdx_iff_getElem?.mpr (List.getElem?_eq_getElem bound)

/-- Every throw, construction and call that is reached from the root without a decorator of a
class declaration on the way is a node of the lowered tree, with its shape and its span, if
the nodes on the way have the shape of the grammar. What the rules have to say about it is
found by every linter. -/
theorem exists_node_of_reaches (parser : Parser) (source : String) (dialect : Dialect)
    {target : Concrete} {shape : Shape} (raises : target.raising? = some shape)
    (reaches : Concrete.Reaches Concrete.Overlooks (parser source dialect).root target)
    (regular : ∀ node, Concrete.Reaches Concrete.Overlooks (parser source dialect).root node →
      Concrete.Reaches Concrete.Overlooks node target → node.IsRegular) :
    ∃ node ∈ (ofSource parser source dialect).nodes,
      node.shape = shape ∧ node.span = target.span ∧
      ∀ linter : Linter Rule, linter.IsBuilt →
        ∀ finding ∈ linter.findingsAt (ofSource parser source dialect) node,
          finding ∈ linter.emit (ofSource parser source dialect) := by
  have isSome : target.raising?.isSome = true := by
    rw [raises]
    rfl
  have kept := Lowering.lower_mem_preorder source.toList reaches isSome regular
  obtain ⟨node, inTree, same⟩ :=
    @exists_node_of_mem_preorder (ofSource parser source dialect) _ kept
  obtain ⟨shaped, placed⟩ :=
    Lowering.shape_lower source.toList (regular target reaches (.here target)) raises
  refine ⟨node, inTree, ?_, ?_, fun linter built finding said => ?_⟩
  · rw [Node.shape, same, shaped]
  · rw [Node.span, same, placed]
  · rw [built.emit_eq]
    exact List.mem_append_left _ (List.mem_flatMap.mpr ⟨node, inTree, said⟩)

end SourceTree

namespace Sample

/-- A part that stands in a field, or in none, in the first row of a text. -/
def part (symbol : String) (field : Option String) (start stop : Nat)
    (children : List Concrete) : Concrete :=
  .node ⟨symbol, true, false, field, ⟨start, stop⟩, ⟨0, start⟩⟩ children

/-- A call in the hole of a template. -/
def callInHole : Concrete :=
  part "call_expression" none 16 19 [part "identifier" (some "function") 16 17 [],
    part "arguments" (some "arguments") 17 19 []]

/-- A construction in parentheses is thrown, with a template as its argument. -/
def parenthesizedThrow : Concrete :=
  part "program" none 0 24 [part "throw_statement" none 0 24 [
    part "parenthesized_expression" none 6 23 [part "new_expression" none 7 22 [
      part "identifier" (some "constructor") 11 12 [],
      part "arguments" (some "arguments") 12 22 [part "template_string" none 13 21 [
        part "template_substitution" none 14 20 [callInHole]]]]]]]

/-- A construction in the arguments of a decorator. -/
def constructionInDecorator : Concrete :=
  part "new_expression" none 3 17 [part "identifier" (some "constructor") 7 12 [],
    part "arguments" (some "arguments") 12 17 [part "string" none 13 16 [
      part "string_fragment" none 14 15 []]]]

/-- A class with a decorator. -/
def decoratedClass : Concrete :=
  part "program" none 0 29 [part "class_declaration" none 0 29 [
    part "decorator" (some "decorator") 0 18 [part "call_expression" none 1 18 [
      part "identifier" (some "function") 1 2 [],
      part "arguments" (some "arguments") 2 18 [constructionInDecorator]]],
    part "identifier" (some "name") 25 26 [], part "class_body" (some "body") 27 29 []]]

end Sample

open Concrete in
/-- The call in the template is found, below a throw, parentheses, a construction and its
arguments. -/
theorem SourceTree.exists_node_of_reaches_sample :
    Reaches Overlooks Sample.parenthesizedThrow Sample.callInHole ∧
      (∀ node ∈ Sample.parenthesizedThrow.nodes, node.IsRegular) ∧
      ∃ node ∈ (SourceTree.ofSource (fun _ _ => ⟨false, Sample.parenthesizedThrow⟩)
          "throw (new E(`$\x7bf()\x7d`));" .javascript).nodes,
        node.shape = .call ∧ node.span = ⟨16, 19⟩ := by
  have reaches : Reaches Overlooks Sample.parenthesizedThrow Sample.callInHole := by
    have first := @List.mem_cons_self Concrete
    refine .through first (by decide) (.through first (by decide) (.through first (by decide) ?_))
    refine .through (List.mem_cons_of_mem _ first) (by decide) (.through first (by decide) ?_)
    exact .through first (by decide) (.of_mem_parts first (by decide))
  have regular : ∀ node ∈ Sample.parenthesizedThrow.nodes, node.IsRegular := by decide +kernel
  obtain ⟨node, inTree, shape, span, -⟩ := exists_node_of_reaches
    (fun _ _ => ⟨false, Sample.parenthesizedThrow⟩) "throw (new E(`$\x7bf()\x7d`));" .javascript
    (by decide +kernel : Sample.callInHole.raising? = some .call) reaches
    fun node below _ => regular node below.mem_nodes
  exact ⟨reaches, regular, node, inTree, shape, span⟩

open Concrete in
/-- The construction in the decorator is reached as well, if decorators are not left out, and
there is no construction in the lowered tree. -/
theorem SourceTree.decorator_not_lowered :
    (∀ node ∈ Sample.decoratedClass.nodes, node.IsRegular) ∧
      Reaches Excludes Sample.decoratedClass Sample.constructionInDecorator ∧
      Sample.constructionInDecorator.raising? = some .construction ∧
      ∀ node ∈ (SourceTree.ofSource (fun _ _ => ⟨false, Sample.decoratedClass⟩)
        "@d(new Error('e')) class F \x7b\x7d" .javascript).nodes, node.shape ≠ .construction := by
  refine ⟨by decide +kernel, ?_, by decide +kernel, by decide +kernel⟩
  have first := @List.mem_cons_self Concrete
  refine .through first (by decide) (.through first (by decide) (.through first (by decide) ?_))
  refine .through (List.mem_cons_of_mem _ first) (by decide) ?_
  exact .of_mem_parts first (by decide)

end ErrorLint
