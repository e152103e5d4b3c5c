/-
This file shows that parentheses make no difference to lowering, wherever it opens a node. When
lowering opens a node it looks through parentheses, so a node and the node in parentheses are
lowered alike. In a role a node can be exchanged for one that stands in the same field and is
lowered alike, unless lowering takes it for something else by its kind; parentheses are taken
for nothing else. The node above is then lowered alike as well and has kept its label, so the
exchange goes up role by role to the root.

Together with what is known of comments this says that the format of a text is of no
consequence: whatever comments are inserted and whatever is put in parentheses, the lowered
tree is the same to the last number, and so are all findings.
-/

import ErrorLint.Linter.Basic
import ErrorLint.Proofs.Tree.Roles
import ErrorLint.Proofs.Tree.Stack
import ErrorLint.Rule.Basic
import Mathlib.Logic.Relation

namespace ErrorLint

/-! ### Nodes that are lowered alike -/

/-- A node can stand for another in a role: it stands in the same field, it is lowered alike,
and it is of the same kind or parenthesized. -/
structure Alike (text : List Char) (left right : Concrete) : Prop where
  field : right.label.field = left.label.field
  isPart : right.isPart = left.isPart
  kind : right.kind = left.kind ∨ right.kind = .parenthesized
  lower : Lowering.lower text right = Lowering.lower text left

namespace Alike

variable {text : List Char} {gap : Gap} {left right : Concrete}

theorem kind_ne (alike : Alike text left right) {kind : Kind} (leftOther : left.kind ≠ kind)
    (notParenthesized : kind ≠ .parenthesized) : right.kind ≠ kind := by
  rcases alike.kind with same | parenthesized
  · rwa [same]
  · rw [parenthesized]
    exact notParenthesized.symm

theorem map_parts_fill (alike : Alike text left right) (gap : Gap) :
    (gap.fill right).parts.map (Lowering.lower text) =
      (gap.fill left).parts.map (Lowering.lower text) := by
  rw [Gap.parts_fill, Gap.parts_fill, alike.isPart, List.map_append, List.map_append,
    List.map_append, List.map_append]
  cases left.isPart with
  | false => rfl
  | true =>
    rw [if_pos rfl, if_pos rfl, List.map_singleton, List.map_singleton, alike.lower]

theorem map_head?_parts_fill (alike : Alike text left right) (gap : Gap) :
    (gap.fill right).parts.head?.map (Lowering.lower text) =
      (gap.fill left).parts.head?.map (Lowering.lower text) := by
  rw [← List.head?_map, alike.map_parts_fill, List.head?_map]

theorem map_field?_fill (alike : Alike text left right) (gap : Gap) (name : String) :
    ((gap.fill right).field? name).map (Lowering.lower text) =
      ((gap.fill left).field? name).map (Lowering.lower text) := by
  rcases gap.field?_fill_cases alike.field name with same | ⟨leftFound, rightFound⟩
  · rw [same]
  · rw [leftFound, rightFound, Option.map_some, Option.map_some, alike.lower]

theorem field?_fill_eq_none (alike : Alike text left right) {name : String}
    (missing : (gap.fill left).field? name = none) : (gap.fill right).field? name = none := by
  have same := alike.map_field?_fill gap name
  rw [missing, Option.map_none, Option.map_eq_none_iff] at same
  exact same

theorem isPlain_fill (alike : Alike text left right) (plain : (gap.fill left).IsPlain) :
    (gap.fill right).IsPlain := by
  unfold Concrete.IsPlain at plain ⊢
  rw [Gap.kind_fill] at plain ⊢
  split at plain
  case h_1 => exact alike.field?_fill_eq_none plain
  case h_2 =>
    refine plain.imp alike.field?_fill_eq_none fun noList => ?_
    rcases gap.field?_fill_cases alike.field "arguments" with same | ⟨leftFound, rightFound⟩
    · rwa [same]
    · intro arguments found
      obtain rfl : right = arguments := Option.some.inj (rightFound.symm.trans found)
      exact alike.kind_ne (noList left leftFound) (by decide)
  case h_3 => exact plain.imp alike.field?_fill_eq_none alike.field?_fill_eq_none
  case h_4 => exact plain.imp alike.field?_fill_eq_none alike.field?_fill_eq_none
  all_goals exact plain

/-- If the plans are filled alike, the nodes around the gap are lowered alike, and they have the
same label. -/
theorem fill (notParenthesized : gap.label.kind ≠ .parenthesized)
    (planned : (Lowering.plan text (gap.fill right)).map (Lowering.lower text) =
      (Lowering.plan text (gap.fill left)).map (Lowering.lower text)) :
    Alike text (gap.fill left) (gap.fill right) where
  field := rfl
  isPart := rfl
  kind := Or.inl rfl
  lower := by
    have unwrapped : ∀ tree, (gap.fill tree).unwrap = gap.fill tree :=
      fun tree => Concrete.unwrap_of_kind_ne notParenthesized
    rw [Lowering.lower_eq, Lowering.lower_eq text (gap.fill left), unwrapped, unwrapped, planned]
    rfl

theorem fill_of_isPlain (alike : Alike text left right) (plain : (gap.fill left).IsPlain) :
    Alike text (gap.fill left) (gap.fill right) := by
  have notParenthesized : gap.label.kind ≠ .parenthesized := by
    intro kind
    unfold Concrete.IsPlain at plain
    rw [Gap.kind_fill, kind] at plain
    exact plain
  refine fill notParenthesized ?_
  rw [plain.plan_eq, (alike.isPlain_fill plain).plan_eq]
  exact congrArg (Form.other gap.label.symbol) (alike.map_parts_fill gap)

/-! What fills a role of a form is exchanged, form by form. -/

theorem fill_statement (alike : Alike text left right) (kind : gap.label.kind = .program) :
    Alike text (gap.fill left) (gap.fill right) := by
  refine fill (by rw [kind]; decide) ?_
  simp only [Lowering.plan, Gap.kind_fill, kind]
  exact congrArg Form.program (alike.map_parts_fill gap)

theorem fill_property (alike : Alike text left right) (kind : gap.label.kind = .object) :
    Alike text (gap.fill left) (gap.fill right) := by
  refine fill (by rw [kind]; decide) ?_
  simp only [Lowering.plan, Gap.kind_fill, kind]
  exact congrArg Form.object (alike.map_parts_fill gap)

theorem fill_thrown (alike : Alike text left right) (kind : gap.label.kind = .throwStatement) :
    Alike text (gap.fill left) (gap.fill right) := by
  refine fill (by rw [kind]; decide) ?_
  simp only [Lowering.plan, Gap.kind_fill, kind]
  exact congrArg Form.throwing (alike.map_head?_parts_fill gap)

theorem fill_constructed (alike : Alike text left right) (kind : gap.label.kind = .newExpression)
    (stands : gap.IsField "constructor" left) : Alike text (gap.fill left) (gap.fill right) := by
  have different : "constructor" ≠ "arguments" := by decide
  have sameArguments := stands.field?_fill_of_ne alike.field different
  refine fill (by rw [kind]; decide) ?_
  simp only [Lowering.plan, Gap.kind_fill, kind, stands.field?_fill,
    (stands.congr alike.field).field?_fill, sameArguments]
  cases (gap.fill left).field? "arguments" <;> simp only [Form.map, alike.lower]

theorem fill_called (alike : Alike text left right) {arguments : Concrete}
    (kind : gap.label.kind = .callExpression) (stands : gap.IsField "function" left)
    (found : (gap.fill left).field? "arguments" = some arguments)
    (list : arguments.kind = .arguments) : Alike text (gap.fill left) (gap.fill right) := by
  have sameArguments := stands.field?_fill_of_ne alike.field (by decide : "function" ≠ "arguments")
  refine fill (by rw [kind]; decide) ?_
  simp only [Lowering.plan, Gap.kind_fill, kind, stands.field?_fill,
    (stands.congr alike.field).field?_fill, sameArguments, found, if_pos list, Form.map,
    alike.lower]

theorem fill_constructorArgument (alike : Alike text left right) {inner : Gap}
    {callee : Concrete} (kind : gap.label.kind = .newExpression)
    (found : (gap.fill (inner.fill left)).field? "constructor" = some callee)
    (stands : gap.IsField "arguments" (inner.fill left)) :
    Alike text (gap.fill (inner.fill left)) (gap.fill (inner.fill right)) := by
  have label : (inner.fill right).label.field = (inner.fill left).label.field := rfl
  have sameCallee := stands.field?_fill_of_ne label (by decide : "arguments" ≠ "constructor")
  refine fill (by rw [kind]; decide) ?_
  simp only [Lowering.plan, Gap.kind_fill, kind, stands.field?_fill,
    (stands.congr label).field?_fill, sameCallee, found, Form.map, alike.map_parts_fill]

theorem fill_callArgument (alike : Alike text left right) {inner : Gap} {callee : Concrete}
    (kind : gap.label.kind = .callExpression)
    (found : (gap.fill (inner.fill left)).field? "function" = some callee)
    (stands : gap.IsField "arguments" (inner.fill left)) (list : inner.label.kind = .arguments) :
    Alike text (gap.fill (inner.fill left)) (gap.fill (inner.fill right)) := by
  have label : (inner.fill right).label.field = (inner.fill left).label.field := rfl
  have sameCallee := stands.field?_fill_of_ne label (by decide : "arguments" ≠ "function")
  refine fill (by rw [kind]; decide) ?_
  simp only [Lowering.plan, Gap.kind_fill, kind, stands.field?_fill,
    (stands.congr label).field?_fill, sameCallee, found, list, if_true, Form.map,
    alike.map_parts_fill]

theorem fill_substitution (alike : Alike text left right) {inner : Gap}
    (kind : gap.label.kind = .templateString) :
    Alike text (gap.fill (inner.fill left)) (gap.fill (inner.fill right)) := by
  refine fill (by rw [kind]; decide) ?_
  simp only [Lowering.plan, Gap.kind_fill, kind]
  refine congrArg Form.template ?_
  unfold Lowering.substitutions
  rw [List.map_filterMap, List.map_filterMap, Gap.parts_fill, Gap.parts_fill]
  simp only [List.filter_append, List.filterMap_append]
  refine congrArg (_ ++ ·) (congrArg (· ++ _) ?_)
  -- Whether the hole is one of the template depends on its label only.
  rw [show (inner.fill right).isPart = (inner.fill left).isPart from rfl]
  cases (inner.fill left).isPart with
  | false => rfl
  | true =>
    by_cases hole : inner.label.kind = .templateSubstitution
    · simp [hole, List.filterMap_cons, alike.map_head?_parts_fill inner]
    · simp [hole]

theorem fill_operand (alike : Alike text left right) {operator : Concrete}
    (kind : gap.label.kind = .unaryExpression)
    (found : (gap.fill left).field? "operator" = some operator)
    (stands : gap.IsField "argument" left) : Alike text (gap.fill left) (gap.fill right) := by
  have sameOperator := stands.field?_fill_of_ne alike.field (by decide : "argument" ≠ "operator")
  refine fill (by rw [kind]; decide) ?_
  simp only [Lowering.plan, Gap.kind_fill, kind, stands.field?_fill,
    (stands.congr alike.field).field?_fill, sameOperator, found, Form.map, alike.lower]

theorem fill_owner (alike : Alike text left right) {property : Concrete}
    (kind : gap.label.kind = .memberExpression) (stands : gap.IsField "object" left)
    (found : (gap.fill left).field? "property" = some property) :
    Alike text (gap.fill left) (gap.fill right) := by
  have sameProperty := stands.field?_fill_of_ne alike.field (by decide : "object" ≠ "property")
  refine fill (by rw [kind]; decide) ?_
  simp only [Lowering.plan, Gap.kind_fill, kind, stands.field?_fill,
    (stands.congr alike.field).field?_fill, sameProperty, found, Form.map, alike.lower]

end Alike

/-! ### Classes -/

namespace Lowering

variable {text : List Char} {gap : Gap}

/-- The superclass does not depend on a node that is no heritage. -/
theorem superclass?_fill {left right : Concrete} (leftOther : left.kind ≠ .classHeritage)
    (rightOther : right.kind ≠ .classHeritage) :
    superclass? (gap.fill right) = superclass? (gap.fill left) := by
  have skipped : ∀ tree : Concrete, tree.kind ≠ .classHeritage →
      (gap.fill tree).parts.find? (·.kind = .classHeritage) =
        (gap.before.filter Concrete.isPart ++ gap.after.filter Concrete.isPart).find?
          (·.kind = .classHeritage) := by
    intro tree other
    rw [Gap.parts_fill, List.find?_append, List.find?_append, List.find?_append]
    split <;> simp [other]
  rw [superclass?, skipped right rightOther, superclass?, skipped left leftOther]

/-- The superclass is what the heritage has first beside implements clauses. -/
theorem superclass?_of_isFirst {inner : Gap} {tree : Concrete}
    (heritage : gap.IsFirstPart (·.kind = .classHeritage) (inner.fill tree))
    (first : inner.IsFirstPart (·.kind ≠ .implementsClause) tree) :
    superclass? (gap.fill (inner.fill tree)) =
      if tree.kind = .extendsClause then tree.field? "value" else some tree := by
  rw [superclass?, heritage.find?_parts, Option.bind_some, superclassAmong_eq, first.find?_parts,
    Option.bind_some]

end Lowering

namespace Alike

open Lowering

variable {text : List Char} {gap : Gap} {left right : Concrete}

/-- A class is lowered alike if the node in the gap is and if the superclass is. -/
theorem fill_of_superclass? (alike : Alike text left right) (kind : gap.label.kind.IsClass)
    (superclass : (superclass? (gap.fill right)).map (Lowering.lower text) =
      (superclass? (gap.fill left)).map (Lowering.lower text)) :
    Alike text (gap.fill left) (gap.fill right) := by
  have notParenthesized : gap.label.kind ≠ .parenthesized := by
    rcases kind with kind | kind <;> rw [kind] <;> decide
  refine Alike.fill notParenthesized ?_
  have isClass : ∀ tree, (gap.fill tree).kind.IsClass := fun _ => kind
  rw [plan_of_isClass (isClass left), plan_of_isClass (isClass right), Form.map, Form.map,
    alike.map_field?_fill, alike.map_field?_fill, superclass]

theorem fill_declared (alike : Alike text left right) (kind : gap.label.kind.IsClass)
    (notHeritage : left.kind ≠ .classHeritage) : Alike text (gap.fill left) (gap.fill right) := by
  refine alike.fill_of_superclass? kind ?_
  rw [superclass?_fill notHeritage (alike.kind_ne notHeritage (by decide))]

/-- The heritage of a class is lowered alike as a node of its own. -/
theorem fill_heritage (alike : Alike text left right) {inner : Gap}
    (heritage : gap.IsFirstPart (·.kind = .classHeritage) (inner.fill left)) :
    Alike text (inner.fill left) (inner.fill right) := by
  have kind : inner.label.kind = .classHeritage :=
    of_decide_eq_true ((Bool.and_eq_true _ _).mp heritage.1).2
  refine alike.fill_of_isPlain ?_
  unfold Concrete.IsPlain
  rw [Gap.kind_fill, kind]
  trivial

theorem fill_superclass (alike : Alike text left right) {inner : Gap}
    (kind : gap.label.kind.IsClass)
    (heritage : gap.IsFirstPart (·.kind = .classHeritage) (inner.fill left))
    (first : inner.IsFirstPart (·.kind ≠ .implementsClause) left)
    (notExtending : left.kind ≠ .extendsClause) :
    Alike text (gap.fill (inner.fill left)) (gap.fill (inner.fill right)) := by
  have firstRight : inner.IsFirstPart (·.kind ≠ .implementsClause) right := by
    obtain ⟨here, notBefore⟩ := first
    simp only [Bool.and_eq_true, decide_eq_true_eq] at here
    refine ⟨?_, notBefore⟩
    simp only [Bool.and_eq_true, decide_eq_true_eq]
    exact ⟨alike.isPart.trans here.1, alike.kind_ne here.2 (by decide)⟩
  -- A heritage is told by its label.
  have heritageRight : gap.IsFirstPart (·.kind = .classHeritage) (inner.fill right) := heritage
  refine (alike.fill_heritage heritage).fill_of_superclass? kind ?_
  rw [superclass?_of_isFirst heritage first, superclass?_of_isFirst heritageRight firstRight,
    if_neg notExtending, if_neg (alike.kind_ne notExtending (by decide)), Option.map_some,
    Option.map_some, alike.lower]

theorem fill_extended (alike : Alike text left right) {inner clause : Gap}
    (kind : gap.label.kind.IsClass)
    (heritage : gap.IsFirstPart (·.kind = .classHeritage) (inner.fill (clause.fill left)))
    (first : inner.IsFirstPart (·.kind ≠ .implementsClause) (clause.fill left))
    (extending : clause.label.kind = .extendsClause) :
    Alike text (gap.fill (inner.fill (clause.fill left)))
      (gap.fill (inner.fill (clause.fill right))) := by
  have plain : (clause.fill left).IsPlain := by
    unfold Concrete.IsPlain
    rw [Gap.kind_fill, extending]
    trivial
  have alikeClause := alike.fill_of_isPlain plain
  refine (alikeClause.fill_heritage heritage).fill_of_superclass? kind ?_
  have heritageRight : gap.IsFirstPart (·.kind = .classHeritage)
      (inner.fill (clause.fill right)) := heritage
  have firstRight : inner.IsFirstPart (·.kind ≠ .implementsClause) (clause.fill right) := first
  rw [superclass?_of_isFirst heritage first, superclass?_of_isFirst heritageRight firstRight,
    Gap.kind_fill, Gap.kind_fill, if_pos extending, if_pos extending, alike.map_field?_fill]

end Alike

/-! ### Exchanging what fills a role -/

/-- Nodes that are alike can be exchanged in a role. -/
theorem Role.alike_fillAll {text : List Char} {path : List Gap} {left right : Concrete}
    (role : Role path left) (alike : Alike text left right) :
    Alike text (Gap.fillAll path left) (Gap.fillAll path right) := by
  cases role with
  | statement kind isPart => exact alike.fill_statement kind
  | property kind isPart => exact alike.fill_property kind
  | other plain isPart => exact alike.fill_of_isPlain plain
  | thrown kind first => exact alike.fill_thrown kind
  | constructed kind stands => exact alike.fill_constructed kind stands
  | called kind stands found list => exact alike.fill_called kind stands found list
  | constructorArgument kind found stands isPart =>
    exact alike.fill_constructorArgument kind found stands
  | callArgument kind found stands list isPart =>
    exact alike.fill_callArgument kind found stands list
  | substitution kind hole holeIsPart first => exact alike.fill_substitution kind
  | operand kind found stands => exact alike.fill_operand kind found stands
  | owner kind stands found => exact alike.fill_owner kind stands found
  | declared kind listed stands notHeritage => exact alike.fill_declared kind notHeritage
  | superclass kind heritage first notExtending =>
    exact alike.fill_superclass kind heritage first notExtending
  | extended kind heritage first extending stands =>
    exact alike.fill_extended kind heritage first extending

/-- Nodes that are alike can be exchanged wherever lowering opens them. -/
theorem Opened.alike_fillAll {text : List Char} {path : List Gap} {left right : Concrete}
    (opened : Opened path left) (alike : Alike text left right) :
    Alike text (Gap.fillAll path left) (Gap.fillAll path right) := by
  induction opened with
  | root tree => exact alike
  | role role opened inductionHypothesis =>
    rw [Gap.fillAll_append, Gap.fillAll_append]
    exact role.alike_fillAll (inductionHypothesis alike)
  | @inside gap inner tree kind first opened inductionHypothesis =>
    have below := inductionHypothesis alike
    have firstRight : gap.IsFirst Concrete.isPart (Gap.fillAll inner right) :=
      ⟨below.isPart.trans first.1, first.2⟩
    refine ⟨rfl, rfl, Or.inl rfl, ?_⟩
    have lowered : Lowering.lower text (gap.fill (Gap.fillAll inner right)) =
        Lowering.lower text (gap.fill (Gap.fillAll inner tree)) := by
      rw [firstRight.lower_fill kind, first.lower_fill kind, below.lower]
    exact lowered

/-! ### Parentheses around a node -/

namespace Concrete

/-- The tree in another field of its parent. -/
def inField (field : Option String) : Concrete → Concrete
  | node label children => node { label with field := field } children

theorem plan_inField (text : List Char) (field : Option String) (tree : Concrete) :
    Lowering.plan text (tree.inField field) = Lowering.plan text tree := by
  obtain ⟨label, children⟩ := tree
  rfl

/-- A node does not depend on the field in which it stands. -/
theorem lower_inField (text : List Char) (field : Option String) (tree : Concrete) :
    Lowering.lower text (tree.inField field) = Lowering.lower text tree := by
  have kind : (tree.inField field).kind = tree.kind := by
    obtain ⟨label, children⟩ := tree
    rfl
  have parts : (tree.inField field).parts = tree.parts := by
    obtain ⟨label, children⟩ := tree
    rfl
  have place : (tree.inField field).place = tree.place := by
    obtain ⟨label, children⟩ := tree
    rfl
  have asItStands : (tree.inField field).unwrap = tree.inField field → tree.unwrap = tree →
      Lowering.lower text (tree.inField field) = Lowering.lower text tree := by
    intro left right
    rw [Lowering.lower_eq, Lowering.lower_eq text tree, left, right, place, plan_inField]
  by_cases parenthesized : tree.kind = .parenthesized
  · cases head : tree.parts.head? with
    | none =>
      exact asItStands (unwrap_of_head?_eq_none (by rw [parts, head]))
        (unwrap_of_head?_eq_none head)
    | some first =>
      rw [Lowering.lower_eq, Lowering.lower_eq text tree,
        unwrap_of_head?_eq_some parenthesized head,
        unwrap_of_head?_eq_some (kind.trans parenthesized) (by rw [parts, head])]
  · exact asItStands (unwrap_of_kind_ne (by rwa [kind])) (unwrap_of_kind_ne parenthesized)

/-- A node in any number of parentheses, the outermost of which stand in its field. Each pair has
the next one, or the node, for its only part. -/
inductive Encloses : Concrete → Concrete → Prop where
  | refl (tree : Concrete) : Encloses tree tree
  | parenthesize {outer middle tree : Concrete} (field : Option String)
    (kind : outer.kind = .parenthesized) (isPart : outer.isPart = true)
    (stands : outer.label.field = tree.label.field) (only : outer.parts = [middle.inField field])
    (encloses : Encloses middle tree) : Encloses outer tree

theorem Encloses.alike (text : List Char) {outer tree : Concrete} (encloses : Encloses outer tree) :
    Alike text tree outer := by
  induction encloses with
  | refl tree => exact ⟨rfl, rfl, Or.inl rfl, rfl⟩
  | @parenthesize outer middle tree field kind isPart stands only encloses inductionHypothesis =>
    have middleIsPart : middle.isPart = true := by
      have member : middle.inField field ∈ outer.parts := by
        rw [only]
        exact List.mem_singleton_self _
      obtain ⟨label, children⟩ := middle
      exact (List.mem_filter.mp member).2
    refine ⟨stands, ?_, Or.inr kind, ?_⟩
    · rw [isPart, ← inductionHypothesis.isPart, middleIsPart]
    · rw [← inductionHypothesis.lower, ← lower_inField text field middle, Lowering.lower_eq,
        unwrap_of_head?_eq_some kind (by rw [only]; rfl), ← Lowering.lower_eq]

end Concrete

/-! ### Formatting -/

/-- Two trees differ in their format only: a comment is inserted somewhere, or something that
lowering opens is put in parentheses. -/
inductive Reformats : Concrete → Concrete → Prop where
  | comment (path : List Gap) (gap : Gap) {comment : Concrete}
    (isComment : comment.isComment = true) :
    Reformats (Gap.fillAll path gap.close) (Gap.fillAll path (gap.fill comment))
  | parentheses {path : List Gap} {tree outer : Concrete} (opened : Opened path tree)
    (encloses : outer.Encloses tree) : Reformats (Gap.fillAll path tree) (Gap.fillAll path outer)

theorem Reformats.lower_eq {tree edited : Concrete} (reformats : Reformats tree edited)
    (text : List Char) : Lowering.lower text edited = Lowering.lower text tree := by
  cases reformats with
  | comment path gap isComment => exact Gap.lower_fillAll_of_isComment text path gap isComment
  | parentheses opened encloses => exact (opened.alike_fillAll (encloses.alike text)).lower

/-- Any number of comments and parentheses make no difference: the table of the lowered nodes is
the same, and every linter, whatever its rules are, finds the same
in the tree. -/
theorem Arena.lower_reformatted {tree edited : Concrete}
    (reformatted : Relation.ReflTransGen Reformats tree edited) (source : String) :
    Arena.lower source.toList edited = Arena.lower source.toList tree ∧
      ∀ (R M : Type) [RuleKind R M] (linter : Linter R) (hasErrors : Bool),
        linter.lintTree ⟨source, Lowering.lower source.toList edited, hasErrors⟩ =
          linter.lintTree ⟨source, Lowering.lower source.toList tree, hasErrors⟩ := by
  have lowered : Lowering.lower source.toList edited = Lowering.lower source.toList tree := by
    induction reformatted with
    | refl => rfl
    | tail before reformats inductionHypothesis =>
      rw [reformats.lower_eq, inductionHypothesis]
  refine ⟨?_, fun _ _ _ linter hasErrors => by rw [lowered]⟩
  rw [Arena.lower, Arena.lower, lowerWith_eq, lowerWith_eq, lowered]

namespace Sample

/-- A place between the children of a node of a text with eighteen bytes. -/
def place (symbol : String) : Gap := ⟨⟨symbol, true, false, none, ⟨0, 18⟩, ⟨0, 0⟩⟩, [], []⟩

/-- A text that is thrown. -/
def thrownText : Concrete :=
  .node ⟨"string", true, false, none, ⟨12, 15⟩, ⟨0, 12⟩⟩
    [.node ⟨"string_fragment", true, false, none, ⟨13, 14⟩, ⟨0, 13⟩⟩ []]

/-- A pair of parentheses, with a place in it. -/
def pair (start stop : Nat) : Gap :=
  ⟨⟨"parenthesized_expression", true, false, none, ⟨start, stop⟩, ⟨0, start⟩⟩, [], []⟩

/-- A comment. -/
def comment : Concrete := .node ⟨"comment", true, true, none, ⟨8, 12⟩, ⟨0, 8⟩⟩ []

/-- The throw, without parentheses and comments. -/
def bareThrow : Concrete := Gap.fillAll [place "program", place "throw_statement"] thrownText

/-- The throw, with a comment in two pairs of parentheses. -/
def formattedThrow : Concrete :=
  Gap.fillAll [place "program", place "throw_statement", pair 6 17]
    (.node (pair 7 16).label [comment, thrownText])

/-- The linter with the rule about thrown literals. -/
def literalLinter : Linter Rule := Linter.empty.add (.noThrowLiteral .defaults) .error

theorem reformats_bareThrow : Relation.ReflTransGen Reformats bareThrow formattedThrow := by
  have first : (place "throw_statement").IsFirst Concrete.isPart thrownText :=
    ⟨rfl, fun _ member => absurd member List.not_mem_nil⟩
  have inThrow : Opened ([place "throw_statement"] ++ []) thrownText :=
    .role (.thrown rfl first) (.root thrownText)
  have opened : Opened ([place "program"] ++ [place "throw_statement"]) thrownText :=
    .role (.statement rfl rfl) inThrow
  have inner : ((pair 7 16).fill thrownText).Encloses thrownText :=
    @Concrete.Encloses.parenthesize _ thrownText _ none rfl rfl rfl rfl (.refl thrownText)
  have encloses : ((pair 6 17).fill ((pair 7 16).fill thrownText)).Encloses thrownText :=
    .parenthesize none rfl rfl rfl rfl inner
  refine .tail (.single (.parentheses opened encloses)) ?_
  exact .comment [place "program", place "throw_statement", pair 6 17]
    ⟨(pair 7 16).label, [], [thrownText]⟩ rfl

end Sample

/-- The text that is thrown in parentheses beside a comment is found where it stands. -/
theorem Arena.lower_reformatted_sample :
    let source := "throw ((/**/'a'));"
    let found := fun tree => Sample.literalLinter.lintTree
      ⟨source, Lowering.lower source.toList tree, false⟩
    Relation.ReflTransGen Reformats Sample.bareThrow Sample.formattedThrow ∧
      Arena.lower source.toList Sample.formattedThrow = Arena.lower source.toList Sample.bareThrow ∧
      found Sample.formattedThrow = found Sample.bareThrow ∧
      (found Sample.formattedThrow).map (·.place.span) = [⟨12, 15⟩] := by
  intro source found
  obtain ⟨sameTable, sameFindings⟩ := Arena.lower_reformatted Sample.reformats_bareThrow source
  exact ⟨Sample.reformats_bareThrow, sameTable, sameFindings Rule Memory Sample.literalLinter false,
    by decide +kernel⟩

end ErrorLint
