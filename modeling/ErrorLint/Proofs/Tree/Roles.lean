/-
This file tells where lowering opens a node. Lowering does two things with the nodes below the
one that it plans. Some it looks at: the list of arguments, the holes of a template, the
heritage of a class, an operator. Of others it only takes note that they are there, and opens
them later. A role is a place of the second sort. It is told by the gaps between the planned
node and the one that fills the role, because lowering skips the nodes at which it only looks.

What lowering opens is the root, what fills a role of something that it opens, and what comes
first in parentheses that it opens. All nodes of the lowered tree come from such places. A
class whose heritage is its name or its body at the same time would be an exception: its
heritage is opened, but it is also looked at. No grammar has such classes.
-/

import ErrorLint.Proofs.Tree.Comments
import ErrorLint.Proofs.Tree.Provenance

namespace ErrorLint

/-! ### Looking through a gap -/

namespace Gap

variable {gap : Gap} {tree left right : Concrete}

@[simp]
theorem kind_fill (gap : Gap) (tree : Concrete) : (gap.fill tree).kind = gap.label.kind := rfl

/-- Of the nodes with some property the one in the gap comes first. -/
def IsFirst (gap : Gap) (test : Concrete → Bool) (tree : Concrete) : Prop :=
  test tree = true ∧ ∀ other ∈ gap.before, test other = false

/-- Of the parts with some property the one in the gap comes first. -/
def IsFirstPart (gap : Gap) (test : Concrete → Bool) (tree : Concrete) : Prop :=
  gap.IsFirst (fun other => other.isPart && test other) tree

/-- The node in the gap is the one that is found by the name of a field. -/
def IsField (gap : Gap) (name : String) (tree : Concrete) : Prop :=
  gap.IsFirst (·.label.field = some name) tree

theorem IsFirst.find?_children {test : Concrete → Bool} (first : gap.IsFirst test tree) :
    (gap.fill tree).children.find? test = some tree := by
  obtain ⟨here, notBefore⟩ := first
  refine List.find?_eq_some_iff_append.mpr ⟨here, gap.before, gap.after, rfl, ?_⟩
  intro other member
  rw [notBefore other member]
  rfl

theorem IsField.field?_fill {name : String} (stands : gap.IsField name tree) :
    (gap.fill tree).field? name = some tree :=
  IsFirst.find?_children stands

theorem IsFirstPart.find?_parts {test : Concrete → Bool} (first : gap.IsFirstPart test tree) :
    (gap.fill tree).parts.find? test = some tree := by
  have found := IsFirst.find?_children first
  simp only [Concrete.parts, List.find?_filter, ← Bool.and_eq_true, Bool.decide_eq_true]
  exact found

theorem parts_fill (gap : Gap) (tree : Concrete) :
    (gap.fill tree).parts = gap.before.filter Concrete.isPart ++
      ((if tree.isPart then [tree] else []) ++ gap.after.filter Concrete.isPart) := by
  rw [Concrete.parts, fill, Concrete.children, List.filter_append, List.filter_cons]
  split <;> rfl

/-- What is found by a field is the same for both fillings, or it is the filling. -/
theorem field?_fill_cases (gap : Gap) (same : right.label.field = left.label.field)
    (name : String) :
    (gap.fill right).field? name = (gap.fill left).field? name ∨
      (gap.fill left).field? name = some left ∧ (gap.fill right).field? name = some right := by
  simp only [Concrete.field?, fill, Concrete.children, List.find?_append, List.find?_cons, same]
  cases gap.before.find? (·.label.field = some name) with
  | some found => exact Or.inl rfl
  | none =>
    by_cases stands : left.label.field = some name
    · simp [stands]
    · simp [stands]

theorem IsField.congr {name : String} (stands : gap.IsField name left)
    (same : right.label.field = left.label.field) : gap.IsField name right := by
  obtain ⟨here, notBefore⟩ := stands
  refine ⟨?_, notBefore⟩
  dsimp only
  rw [same]
  exact here

/-- The other fields are the same for both fillings. -/
theorem IsField.field?_fill_of_ne {name other : String} (stands : gap.IsField name left)
    (same : right.label.field = left.label.field) (different : name ≠ other) :
    (gap.fill right).field? other = (gap.fill left).field? other := by
  have field : left.label.field = some name := of_decide_eq_true stands.1
  simp [Concrete.field?, fill, Concrete.children, List.find?_append, same, field, different]

end Gap

/-! ### Nodes without a form of their own -/

namespace Concrete

/-- Lowering gives the node no form of its own and opens all its parts. -/
def IsPlain (tree : Concrete) : Prop :=
  match tree.kind with
  | .newExpression => tree.field? "constructor" = none
  | .callExpression => tree.field? "function" = none ∨
      ∀ arguments ∈ tree.field? "arguments", arguments.kind ≠ .arguments
  | .unaryExpression => tree.field? "operator" = none ∨ tree.field? "argument" = none
  | .memberExpression => tree.field? "object" = none ∨ tree.field? "property" = none
  | .arguments | .templateSubstitution | .classHeritage | .extendsClause | .implementsClause
  | .importClause | .importRequireClause | .namespaceImport | .namedImports | .importSpecifier
  | .plain => True
  | _ => False

theorem IsPlain.plan_eq {tree : Concrete} (plain : tree.IsPlain) (text : List Char) :
    Lowering.plan text tree = Lowering.plain tree := by
  unfold IsPlain at plain
  split at plain
  case h_1 kind => simp only [Lowering.plan, kind, plain]
  case h_2 kind =>
    simp only [Lowering.plan, kind]
    rcases plain with noFunction | noList
    · rw [noFunction]
    · cases tree.field? "function" with
      | none => rfl
      | some callee =>
        cases argumentsField : tree.field? "arguments" with
        | none => rfl
        | some arguments => exact if_neg (noList arguments argumentsField)
  case h_3 kind =>
    simp only [Lowering.plan, kind]
    rcases plain with noOperator | noArgument
    · rw [noOperator]
    · rw [noArgument]
      cases tree.field? "operator" <;> rfl
  case h_4 kind =>
    simp only [Lowering.plan, kind]
    rcases plain with noOwner | noProperty
    · rw [noOwner]
    · rw [noProperty]
      cases tree.field? "object" <;> rfl
  case h_16 => cases plain
  all_goals rename_i kind; simp only [Lowering.plan, kind]

end Concrete

/-! ### The roles of a plan -/

/-- The declarations of classes. -/
def Kind.IsClass (kind : Kind) : Prop := kind = .classDeclaration ∨ kind = .abstractClassDeclaration

instance (kind : Kind) : Decidable kind.IsClass := inferInstanceAs (Decidable (_ ∨ _))

theorem Lowering.plan_of_isClass {text : List Char} {tree : Concrete} (kind : tree.kind.IsClass) :
    plan text tree =
      .classDeclaration (tree.field? "name") (superclass? tree) (tree.field? "body") := by
  rcases kind with kind | kind <;> simp only [plan, kind]

open Gap in
/-- The gaps between a node and one that lowering opens when it plans the node. What lowering
looks at on the way is named by its gap only. -/
inductive Role : List Gap → Concrete → Prop where
  | statement {gap : Gap} {child : Concrete} (kind : gap.label.kind = .program)
    (isPart : child.isPart = true) : Role [gap] child
  | property {gap : Gap} {child : Concrete} (kind : gap.label.kind = .object)
    (isPart : child.isPart = true) : Role [gap] child
  | other {gap : Gap} {child : Concrete} (plain : (gap.fill child).IsPlain)
    (isPart : child.isPart = true) : Role [gap] child
  | thrown {gap : Gap} {child : Concrete} (kind : gap.label.kind = .throwStatement)
    (first : gap.IsFirst Concrete.isPart child) : Role [gap] child
  | constructed {gap : Gap} {child : Concrete} (kind : gap.label.kind = .newExpression)
    (stands : gap.IsField "constructor" child) : Role [gap] child
  | called {gap : Gap} {child arguments : Concrete} (kind : gap.label.kind = .callExpression)
    (stands : gap.IsField "function" child)
    (found : (gap.fill child).field? "arguments" = some arguments)
    (list : arguments.kind = .arguments) : Role [gap] child
  | constructorArgument {gap inner : Gap} {child callee : Concrete}
    (kind : gap.label.kind = .newExpression)
    (found : (gap.fill (inner.fill child)).field? "constructor" = some callee)
    (stands : gap.IsField "arguments" (inner.fill child)) (isPart : child.isPart = true) :
    Role [gap, inner] child
  | callArgument {gap inner : Gap} {child callee : Concrete}
    (kind : gap.label.kind = .callExpression)
    (found : (gap.fill (inner.fill child)).field? "function" = some callee)
    (stands : gap.IsField "arguments" (inner.fill child)) (list : inner.label.kind = .arguments)
    (isPart : child.isPart = true) : Role [gap, inner] child
  | substitution {gap inner : Gap} {child : Concrete} (kind : gap.label.kind = .templateString)
    (hole : inner.label.kind = .templateSubstitution)
    (holeIsPart : (inner.fill child).isPart = true)
    (first : inner.IsFirst Concrete.isPart child) : Role [gap, inner] child
  | operand {gap : Gap} {child operator : Concrete} (kind : gap.label.kind = .unaryExpression)
    (found : (gap.fill child).field? "operator" = some operator)
    (stands : gap.IsField "argument" child) : Role [gap] child
  | owner {gap : Gap} {child property : Concrete} (kind : gap.label.kind = .memberExpression)
    (stands : gap.IsField "object" child)
    (found : (gap.fill child).field? "property" = some property) : Role [gap] child
  /-- The name or the body of a class, which must not be taken for its heritage. -/
  | declared {gap : Gap} {child : Concrete} {name : String} (kind : gap.label.kind.IsClass)
    (listed : name = "name" ∨ name = "body") (stands : gap.IsField name child)
    (notHeritage : child.kind ≠ .classHeritage) : Role [gap] child
  | superclass {gap inner : Gap} {child : Concrete} (kind : gap.label.kind.IsClass)
    (heritage : gap.IsFirstPart (·.kind = .classHeritage) (inner.fill child))
    (first : inner.IsFirstPart (·.kind ≠ .implementsClause) child)
    (notExtending : child.kind ≠ .extendsClause) : Role [gap, inner] child
  | extended {gap inner clause : Gap} {child : Concrete} (kind : gap.label.kind.IsClass)
    (heritage : gap.IsFirstPart (·.kind = .classHeritage) (inner.fill (clause.fill child)))
    (first : inner.IsFirstPart (·.kind ≠ .implementsClause) (clause.fill child))
    (extending : clause.label.kind = .extendsClause) (stands : clause.IsField "value" child) :
    Role [gap, inner, clause] child

/-! ### Every node that lowering opens has a role -/

section

variable {tree child : Concrete}

/-- A node fills a role of a tree. -/
def FillsRole (tree child : Concrete) : Prop :=
  ∃ path, Role path child ∧ Gap.fillAll path child = tree

theorem Concrete.exists_gap_of_mem_parts (member : child ∈ tree.parts) :
    child.isPart = true ∧ ∃ gap : Gap, gap.fill child = tree := by
  obtain ⟨isChild, isPart⟩ := List.mem_filter.mp member
  obtain ⟨before, after, split⟩ := List.append_of_mem isChild
  obtain ⟨label, children⟩ := tree
  exact ⟨isPart, ⟨label, before, after⟩, congrArg (Concrete.node label) split.symm⟩

theorem Concrete.exists_gap_of_find? {test : Concrete → Bool}
    (found : tree.children.find? test = some child) :
    ∃ gap : Gap, gap.IsFirst test child ∧ gap.fill child = tree := by
  obtain ⟨here, before, after, split, notBefore⟩ := List.find?_eq_some_iff_append.mp found
  obtain ⟨label, children⟩ := tree
  refine ⟨⟨label, before, after⟩, ⟨here, fun other member => ?_⟩,
    congrArg (Concrete.node label) split.symm⟩
  simpa using notBefore other member

theorem Concrete.exists_gap_of_find?_parts {test : Concrete → Bool}
    (found : tree.parts.find? test = some child) :
    ∃ gap : Gap, gap.IsFirstPart test child ∧ gap.fill child = tree := by
  simp only [Concrete.parts, List.find?_filter, ← Bool.and_eq_true, Bool.decide_eq_true] at found
  exact exists_gap_of_find? found

theorem Concrete.exists_gap_of_head?_parts (found : tree.parts.head? = some child) :
    ∃ gap : Gap, gap.IsFirst Concrete.isPart child ∧ gap.fill child = tree := by
  rw [Concrete.parts, List.head?_filter] at found
  exact exists_gap_of_find? found

variable {text : List Char}

theorem fillsRole_of_isPlain (plain : tree.IsPlain)
    (picked : child ∈ (Lowering.plan text tree).children) : FillsRole tree child := by
  rw [plain.plan_eq] at picked
  obtain ⟨isPart, gap, rfl⟩ := Concrete.exists_gap_of_mem_parts picked
  exact ⟨[gap], .other plain isPart, rfl⟩

theorem fillsRole_of_construction (kind : tree.kind = .newExpression)
    (picked : child ∈ (Lowering.plan text tree).children) : FillsRole tree child := by
  cases constructor : tree.field? "constructor" with
  | none =>
    refine fillsRole_of_isPlain ?_ picked
    unfold Concrete.IsPlain
    rwa [kind]
  | some callee =>
    have calleeFills : FillsRole tree callee := by
      obtain ⟨gap, stands, rfl⟩ := Concrete.exists_gap_of_find? constructor
      exact ⟨[gap], .constructed kind stands, rfl⟩
    cases arguments : tree.field? "arguments" with
    | none =>
      simp only [Lowering.plan, kind, constructor, arguments] at picked
      obtain rfl := List.mem_singleton.mp picked
      exact calleeFills
    | some list =>
      simp only [Lowering.plan, kind, constructor, arguments] at picked
      rcases List.mem_cons.mp picked with rfl | member
      · exact calleeFills
      · obtain ⟨outer, outerStands, rfl⟩ := Concrete.exists_gap_of_find? arguments
        obtain ⟨isPart, inner, rfl⟩ := Concrete.exists_gap_of_mem_parts member
        exact ⟨[outer, inner], .constructorArgument kind constructor outerStands isPart, rfl⟩

theorem fillsRole_of_call (kind : tree.kind = .callExpression)
    (picked : child ∈ (Lowering.plan text tree).children) : FillsRole tree child := by
  have plain : tree.field? "function" = none ∨
      (∀ arguments ∈ tree.field? "arguments", arguments.kind ≠ .arguments) →
        FillsRole tree child := by
    intro missing
    refine fillsRole_of_isPlain ?_ picked
    unfold Concrete.IsPlain
    rwa [kind]
  cases function : tree.field? "function" with
  | none => exact plain (Or.inl function)
  | some callee =>
    cases arguments : tree.field? "arguments" with
    | none => exact plain (Or.inr (by rw [arguments]; exact fun _ found => nomatch found))
    | some list =>
      by_cases isList : list.kind = .arguments
      · simp only [Lowering.plan, kind, function, arguments, if_pos isList] at picked
        rcases List.mem_cons.mp picked with rfl | member
        · obtain ⟨gap, stands, rfl⟩ := Concrete.exists_gap_of_find? function
          exact ⟨[gap], .called kind stands arguments isList, rfl⟩
        · obtain ⟨outer, stands, rfl⟩ := Concrete.exists_gap_of_find? arguments
          obtain ⟨isPart, inner, rfl⟩ := Concrete.exists_gap_of_mem_parts member
          exact ⟨[outer, inner], .callArgument kind function stands isList isPart, rfl⟩
      · refine plain (Or.inr fun other found => ?_)
        rw [arguments] at found
        obtain rfl := Option.some.inj found
        exact isList

theorem fillsRole_of_operator (kind : tree.kind = .unaryExpression)
    (picked : child ∈ (Lowering.plan text tree).children) : FillsRole tree child := by
  have plain : tree.field? "operator" = none ∨ tree.field? "argument" = none →
      FillsRole tree child := by
    intro missing
    refine fillsRole_of_isPlain ?_ picked
    unfold Concrete.IsPlain
    rwa [kind]
  cases operator : tree.field? "operator" with
  | none => exact plain (Or.inl operator)
  | some sign =>
    cases argument : tree.field? "argument" with
    | none => exact plain (Or.inr argument)
    | some operand =>
      simp only [Lowering.plan, kind, operator, argument] at picked
      obtain rfl := List.mem_singleton.mp picked
      obtain ⟨gap, stands, rfl⟩ := Concrete.exists_gap_of_find? argument
      exact ⟨[gap], .operand kind operator stands, rfl⟩

theorem fillsRole_of_member (kind : tree.kind = .memberExpression)
    (picked : child ∈ (Lowering.plan text tree).children) : FillsRole tree child := by
  have plain : tree.field? "object" = none ∨ tree.field? "property" = none →
      FillsRole tree child := by
    intro missing
    refine fillsRole_of_isPlain ?_ picked
    unfold Concrete.IsPlain
    rwa [kind]
  cases object : tree.field? "object" with
  | none => exact plain (Or.inl object)
  | some owner =>
    cases property : tree.field? "property" with
    | none => exact plain (Or.inr property)
    | some name =>
      simp only [Lowering.plan, kind, object, property] at picked
      obtain rfl := List.mem_singleton.mp picked
      obtain ⟨gap, stands, rfl⟩ := Concrete.exists_gap_of_find? object
      exact ⟨[gap], .owner kind stands property, rfl⟩

theorem fillsRole_of_superclass? (kind : tree.kind.IsClass)
    (found : Lowering.superclass? tree = some child) : FillsRole tree child := by
  obtain ⟨heritage, located, among⟩ := Option.bind_eq_some_iff.mp found
  rw [Lowering.superclassAmong_eq] at among
  obtain ⟨clause, first, decided⟩ := Option.bind_eq_some_iff.mp among
  obtain ⟨gap, isHeritage, rfl⟩ := Concrete.exists_gap_of_find?_parts located
  obtain ⟨inner, isFirst, rfl⟩ := Concrete.exists_gap_of_find?_parts first
  by_cases extending : clause.kind = .extendsClause
  · rw [if_pos extending] at decided
    obtain ⟨innermost, stands, rfl⟩ := Concrete.exists_gap_of_find? decided
    exact ⟨[gap, inner, innermost], .extended kind isHeritage isFirst extending stands, rfl⟩
  · rw [if_neg extending] at decided
    obtain rfl := Option.some.inj decided
    exact ⟨[gap, inner], .superclass kind isHeritage isFirst extending, rfl⟩

/-- No heritage of a class is its name or its body. -/
def Concrete.KeepsHeritageApart (tree : Concrete) : Prop :=
  ∀ name inner, name = "name" ∨ name = "body" → tree.field? name = some inner →
    inner.kind ≠ .classHeritage

/-- Every node that lowering opens when it plans a node fills a role of it. -/
theorem fillsRole_of_mem_plan (notParenthesized : tree.kind ≠ .parenthesized)
    (apart : tree.KeepsHeritageApart)
    (picked : child ∈ (Lowering.plan text tree).children) : FillsRole tree child := by
  have ofClass : tree.kind.IsClass → FillsRole tree child := by
    intro kind
    rw [Lowering.plan_of_isClass kind] at picked
    simp only [Form.children, List.mem_append, Option.mem_toList] at picked
    have declared : ∀ name, name = "name" ∨ name = "body" → tree.field? name = some child →
        FillsRole tree child := by
      intro name listed found
      have notHeritage := apart name child listed found
      obtain ⟨gap, stands, rfl⟩ := Concrete.exists_gap_of_find? found
      exact ⟨[gap], .declared kind listed stands notHeritage, rfl⟩
    rcases picked with (inName | inSuperclass) | inBody
    · exact declared "name" (Or.inl rfl) inName
    · exact fillsRole_of_superclass? kind inSuperclass
    · exact declared "body" (Or.inr rfl) inBody
  cases kind : tree.kind
  case parenthesized => exact absurd kind notParenthesized
  case program =>
    simp only [Lowering.plan, kind] at picked
    obtain ⟨isPart, gap, rfl⟩ := Concrete.exists_gap_of_mem_parts picked
    exact ⟨[gap], .statement kind isPart, rfl⟩
  case object =>
    simp only [Lowering.plan, kind] at picked
    obtain ⟨isPart, gap, rfl⟩ := Concrete.exists_gap_of_mem_parts picked
    exact ⟨[gap], .property kind isPart, rfl⟩
  case throwStatement =>
    simp only [Lowering.plan, kind] at picked
    obtain ⟨gap, first, rfl⟩ := Concrete.exists_gap_of_head?_parts (Option.mem_toList.mp picked)
    exact ⟨[gap], .thrown kind first, rfl⟩
  case newExpression => exact fillsRole_of_construction kind picked
  case callExpression => exact fillsRole_of_call kind picked
  case templateString =>
    simp only [Lowering.plan, kind] at picked
    obtain ⟨hole, inHoles, first⟩ := List.mem_filterMap.mp picked
    obtain ⟨isHole, isSubstitution⟩ := List.mem_filter.mp inHoles
    obtain ⟨holeIsPart, gap, rfl⟩ := Concrete.exists_gap_of_mem_parts isHole
    obtain ⟨inner, isFirst, rfl⟩ := Concrete.exists_gap_of_head?_parts first
    exact ⟨[gap, inner], .substitution kind (of_decide_eq_true isSubstitution) holeIsPart isFirst,
      rfl⟩
  case unaryExpression => exact fillsRole_of_operator kind picked
  case memberExpression => exact fillsRole_of_member kind picked
  case classDeclaration => exact ofClass (Or.inl kind)
  case abstractClassDeclaration => exact ofClass (Or.inr kind)
  case string | number | trueLiteral | falseLiteral | nullLiteral | regex | identifier |
      typeIdentifier | undefinedName | importStatement =>
    simp only [Lowering.plan, kind] at picked
    cases picked
  all_goals
    refine fillsRole_of_isPlain ?_ picked
    unfold Concrete.IsPlain
    rw [kind]
    trivial

end

/-! ### Where lowering opens a node -/

open Gap in
/-- The gaps between a tree and a node that lowering opens. The tree itself is opened, then what
fills the roles of an opened node, and what comes first in opened parentheses. -/
inductive Opened : List Gap → Concrete → Prop where
  | root (tree : Concrete) : Opened [] tree
  | role {path inner : List Gap} {tree : Concrete} (role : Role path (fillAll inner tree))
    (opened : Opened inner tree) : Opened (path ++ inner) tree
  | inside {gap : Gap} {inner : List Gap} {tree : Concrete}
    (kind : gap.label.kind = .parenthesized)
    (first : gap.IsFirst Concrete.isPart (fillAll inner tree)) (opened : Opened inner tree) :
    Opened (gap :: inner) tree

theorem Gap.fillAll_append (outer inner : List Gap) (tree : Concrete) :
    fillAll (outer ++ inner) tree = fillAll outer (fillAll inner tree) :=
  List.foldr_append

/-- Parentheses are lowered as what comes first in them. -/
theorem Gap.IsFirst.lower_fill {gap : Gap} {tree : Concrete}
    (first : gap.IsFirst Concrete.isPart tree) (kind : gap.label.kind = .parenthesized)
    (text : List Char) : Lowering.lower text (gap.fill tree) = Lowering.lower text tree := by
  have head : (gap.fill tree).parts.head? = some tree := by
    rw [Concrete.parts, List.head?_filter]
    exact first.find?_children
  have parenthesized : (gap.fill tree).kind = .parenthesized := kind
  rw [Lowering.lower_eq, Lowering.lower_eq text tree,
    Concrete.unwrap_of_head?_eq_some parenthesized head]

/-- A node is looked through, or it stands for itself and its plan fills roles. -/
theorem enclosed_or_fillsRole (text : List Char) {tree : Concrete}
    (apart : tree.KeepsHeritageApart) :
    (∃ (gap : Gap) (first : Concrete), gap.label.kind = .parenthesized ∧
        gap.IsFirst Concrete.isPart first ∧ gap.fill first = tree) ∨
      tree.unwrap = tree ∧ ∀ child ∈ (Lowering.plan text tree).children, FillsRole tree child := by
  by_cases kind : tree.kind = .parenthesized
  · cases head : tree.parts.head? with
    | none =>
      refine Or.inr ⟨Concrete.unwrap_of_head?_eq_none head, fun child picked => ?_⟩
      simp only [Lowering.plan, kind] at picked
      rw [Lowering.plain, Form.children, List.head?_eq_none_iff.mp head] at picked
      cases picked
    | some first =>
      obtain ⟨gap, isFirst, rfl⟩ := Concrete.exists_gap_of_head?_parts head
      exact Or.inl ⟨gap, first, kind, isFirst, rfl⟩
  · exact Or.inr ⟨Concrete.unwrap_of_kind_ne kind, fun child => fillsRole_of_mem_plan kind apart⟩

/-- Every node of a lowered tree comes from a node that lowering opens. -/
theorem exists_opened_of_mem_preorder {text : List Char} {tree : Concrete} {term : Term}
    (apart : ∀ node ∈ tree.nodes, node.KeepsHeritageApart)
    (member : term ∈ (Lowering.lower text tree).preorder) :
    ∃ path node, Opened path node ∧ Gap.fillAll path node = tree ∧
      term = Lowering.lower text node := by
  induction bound : tree.size using Nat.strongRecOn generalizing tree with
  | ind size inductionHypothesis =>
    subst bound
    have apartBelow : ∀ inner ∈ tree.nodes, ∀ node ∈ inner.nodes, node.KeepsHeritageApart :=
      fun inner inTree node inInner => apart node (Concrete.mem_nodes_trans inInner inTree)
    rcases enclosed_or_fillsRole text (apart tree (Concrete.self_mem_nodes tree)) with
      ⟨gap, first, kind, isFirst, rfl⟩ | ⟨unwrapped, fills⟩
    · have isChild : first ∈ (gap.fill first).children :=
        List.mem_append_right _ List.mem_cons_self
      rw [isFirst.lower_fill kind] at member
      obtain ⟨path, node, opened, rfl, lowered⟩ := inductionHypothesis first.size
        (Concrete.size_lt_of_mem_children isChild)
        (apartBelow first (Concrete.mem_nodes_of_mem_children isChild (Concrete.self_mem_nodes _)))
        member rfl
      exact ⟨gap :: path, node, .inside kind isFirst opened, rfl, lowered⟩
    · rw [Term.preorder_eq] at member
      rcases List.mem_cons.mp member with rfl | below
      · exact ⟨[], tree, .root tree, rfl, rfl⟩
      · obtain ⟨lowered, isChild, inChild⟩ := List.mem_flatMap.mp below
        rw [Lowering.lower_eq, unwrapped, Term.form, Form.children_map] at isChild
        obtain ⟨child, picked, rfl⟩ := List.mem_map.mp isChild
        obtain ⟨outer, role, rfl⟩ := fills child picked
        obtain ⟨path, node, opened, rfl, lowered⟩ := inductionHypothesis child.size
          (Lowering.size_lt_of_mem_plan picked)
          (apartBelow child (Lowering.mem_nodes_of_mem_plan picked)) inChild rfl
        exact ⟨outer ++ path, node, .role role opened, Gap.fillAll_append outer path node, lowered⟩

end ErrorLint
