/-
This file shows that comments make no difference to lowering. A comment is an extra that
stands in no field, so it is neither a part nor found by a field, and these are the only two
ways in which lowering gets from a node to its children. Taking all comments out of a tree
therefore commutes with whatever lowering does: with looking for parts and fields, with
looking through parentheses, with reading imports, and with the plan of a node. Two trees
that are the same without their comments are lowered to the same term.
-/

import ErrorLint.Tree.Lowering

namespace ErrorLint

namespace Concrete

/-- A comment is an extra that stands in no field. -/
def isComment (tree : Concrete) : Bool := tree.label.extra && tree.label.field.isNone

mutual

/-- Takes all comments out of a tree. -/
def strip : Concrete → Concrete
  | node label children => node label (stripAll children)

/-- Takes all comments out of several trees, and those of them that are comments. -/
def stripAll : List Concrete → List Concrete
  | [] => []
  | tree :: rest => if tree.isComment then stripAll rest else strip tree :: stripAll rest

end

theorem stripAll_eq (list : List Concrete) :
    stripAll list = (list.filter (!·.isComment)).map strip := by
  induction list with
  | nil => simp [stripAll]
  | cons tree rest inductionHypothesis =>
    rw [stripAll, inductionHypothesis]
    by_cases comment : tree.isComment <;> simp [comment]

theorem children_strip (tree : Concrete) :
    tree.strip.children = (tree.children.filter (!·.isComment)).map strip := by
  obtain ⟨label, children⟩ := tree
  rw [strip]
  exact stripAll_eq children

@[simp]
theorem label_strip (tree : Concrete) : tree.strip.label = tree.label := by
  obtain ⟨label, children⟩ := tree
  rw [strip]
  rfl

@[simp]
theorem kind_strip (tree : Concrete) : tree.strip.kind = tree.kind := by
  rw [kind, label_strip, kind]

@[simp]
theorem span_strip (tree : Concrete) : tree.strip.span = tree.span := by
  rw [span, label_strip, span]

@[simp]
theorem place_strip (tree : Concrete) : tree.strip.place = tree.place := by
  rw [place, span_strip, label_strip, place]

@[simp]
theorem isPart_strip (tree : Concrete) : tree.strip.isPart = tree.isPart := by
  rw [isPart, label_strip, isPart]

theorem isComment_eq_false_of_isPart {tree : Concrete} (isPart : tree.isPart = true) :
    tree.isComment = false := by
  simp only [Concrete.isPart, Bool.and_eq_true, Bool.not_eq_true'] at isPart
  rw [isComment, isPart.2, Bool.false_and]

theorem isComment_eq_false_of_field {tree : Concrete} {name : String}
    (stands : tree.label.field = some name) : tree.isComment = false := by
  rw [isComment, stands]
  exact Bool.and_false _

@[simp]
theorem parts_strip (tree : Concrete) : tree.strip.parts = tree.parts.map strip := by
  rw [parts, children_strip, List.filter_map, List.filter_filter]
  refine congrArg (List.map strip) (List.filter_congr fun child _ => ?_)
  rw [Function.comp_apply, isPart_strip]
  cases isPart : child.isPart with
  | false => rfl
  | true => rw [isComment_eq_false_of_isPart isPart]; rfl

@[simp]
theorem field?_strip (tree : Concrete) (name : String) :
    tree.strip.field? name = (tree.field? name).map strip := by
  rw [field?, children_strip, List.find?_map, List.find?_filter]
  refine congrArg (Option.map strip) (congrArg (fun test => tree.children.find? test) ?_)
  funext child
  rw [Function.comp_apply, label_strip]
  by_cases stands : child.label.field = some name
  · simp [isComment_eq_false_of_field stands]
  · simp [stands]

@[simp]
theorem unwrap_strip (tree : Concrete) : tree.strip.unwrap = tree.unwrap.strip := by
  induction bound : tree.size using Nat.strongRecOn generalizing tree with
  | ind size inductionHypothesis =>
    subst bound
    by_cases kind : tree.kind = .parenthesized
    · cases first : tree.parts.head? with
      | none =>
        have firstStripped : tree.strip.parts.head? = none := by
          rw [parts_strip, List.head?_map, first]
          rfl
        rw [unwrap_of_head?_eq_none first, unwrap_of_head?_eq_none firstStripped]
      | some part =>
        have firstStripped : tree.strip.parts.head? = some part.strip := by
          rw [parts_strip, List.head?_map, first]
          rfl
        have smaller := size_lt_of_mem_parts (List.mem_of_mem_head? first)
        rw [unwrap_of_head?_eq_some kind first,
          unwrap_of_head?_eq_some (by rwa [kind_strip]) firstStripped]
        exact inductionHypothesis part.size smaller part rfl
    · rw [unwrap_of_kind_ne kind, unwrap_of_kind_ne (by rwa [kind_strip])]

end Concrete

/-! ### Lowering without comments -/

namespace Lowering

open Concrete

variable (text : List Char)

@[simp]
theorem textOf_strip (tree : Concrete) : textOf text tree.strip = textOf text tree := by
  rw [textOf, span_strip, textOf]

theorem clausePartBindings_strip (part : Concrete) :
    clausePartBindings text part.strip = clausePartBindings text part := by
  unfold clausePartBindings
  rw [kind_strip]
  split
  · rw [textOf_strip]
  · rw [parts_strip, List.head?_map, Option.map_map]
    simp only [Function.comp_def, textOf_strip]
  · rw [parts_strip, List.filter_map, List.filterMap_map]
    simp only [Function.comp_def, kind_strip, field?_strip, ← Option.map_or, Option.map_map,
      textOf_strip]
  · rfl

theorem importPartBindings_strip (part : Concrete) :
    importPartBindings text part.strip = importPartBindings text part := by
  unfold importPartBindings
  rw [kind_strip]
  split
  · rw [parts_strip, List.flatMap_map]
    simp only [clausePartBindings_strip]
  · rw [parts_strip, List.find?_map, Option.map_map]
    simp only [Function.comp_def, kind_strip, textOf_strip]
  · rfl

theorem importBindings_strip (tree : Concrete) :
    importBindings text tree.strip = importBindings text tree := by
  rw [importBindings, parts_strip, List.flatMap_map]
  simp only [importPartBindings_strip]
  rfl

theorem importSource_strip (tree : Concrete) :
    importSource text tree.strip = importSource text tree := by
  unfold importSource
  rw [field?_strip]
  cases tree.field? "source" with
  | none => rfl
  | some source => simp only [Option.map_some, textOf_strip]

theorem superclassAmong_map_strip (parts : List Concrete) :
    superclassAmong (parts.map strip) = (superclassAmong parts).map strip := by
  induction parts with
  | nil => rfl
  | cons part rest inductionHypothesis =>
    rw [List.map_cons, superclassAmong, kind_strip, superclassAmong]
    split
    · exact field?_strip part "value"
    · exact inductionHypothesis
    · rfl

theorem superclass?_strip (tree : Concrete) :
    superclass? tree.strip = (superclass? tree).map strip := by
  rw [superclass?, parts_strip, List.find?_map, superclass?]
  simp only [Function.comp_def, kind_strip]
  cases tree.parts.find? (·.kind = .classHeritage) with
  | none => rfl
  | some heritage =>
    rw [Option.map_some, Option.bind_some, Option.bind_some, parts_strip, superclassAmong_map_strip]

theorem substitutions_strip (tree : Concrete) :
    substitutions tree.strip = (substitutions tree).map strip := by
  rw [substitutions, parts_strip, List.filter_map, List.filterMap_map, substitutions,
    List.map_filterMap]
  simp only [Function.comp_def, kind_strip, parts_strip, List.head?_map]

theorem plain_strip (tree : Concrete) : plain tree.strip = (plain tree).map strip := by
  rw [plain, label_strip, parts_strip]
  rfl

/-- The plan of a tree without comments is the plan of the tree, over nodes without
comments. -/
theorem plan_strip (tree : Concrete) : plan text tree.strip = (plan text tree).map strip := by
  unfold plan
  rw [kind_strip]
  split
  case h_1 => rw [parts_strip]; rfl
  case h_2 => rw [parts_strip, List.head?_map]; rfl
  case h_3 =>
    rw [field?_strip, field?_strip]
    cases tree.field? "constructor" with
    | none => exact plain_strip tree
    | some callee =>
      cases tree.field? "arguments" with
      | none => rfl
      | some arguments => simp only [Option.map_some, parts_strip]; rfl
  case h_4 =>
    rw [field?_strip, field?_strip]
    cases tree.field? "function" with
    | none => exact plain_strip tree
    | some callee =>
      cases tree.field? "arguments" with
      | none => exact plain_strip tree
      | some arguments =>
        simp only [Option.map_some, kind_strip, parts_strip]
        split
        · rfl
        · exact plain_strip tree
  case h_11 => rw [substitutions_strip]; rfl
  case h_15 =>
    rw [field?_strip, field?_strip]
    cases tree.field? "operator" with
    | none => exact plain_strip tree
    | some operator =>
      cases tree.field? "argument" with
      | none => exact plain_strip tree
      | some argument => simp only [Option.map_some, textOf_strip]; rfl
  case h_16 =>
    rw [field?_strip, field?_strip]
    cases tree.field? "object" with
    | none => exact plain_strip tree
    | some owner =>
      cases tree.field? "property" with
      | none => exact plain_strip tree
      | some property => simp only [Option.map_some, textOf_strip]; rfl
  case h_17 => rw [parts_strip]; rfl
  case h_18 | h_19 => rw [field?_strip, superclass?_strip, field?_strip]; rfl
  case h_20 => rw [importBindings_strip, importSource_strip]; rfl
  case h_21 => exact plain_strip tree
  all_goals first | rw [textOf_strip]; rfl | rfl

/-- Taking the comments out of a tree does not change what it is lowered to. -/
theorem lower_strip (tree : Concrete) : lower text tree.strip = lower text tree := by
  induction bound : tree.size using Nat.strongRecOn generalizing tree with
  | ind size inductionHypothesis =>
    subst bound
    rw [lower_eq, unwrap_strip, place_strip, plan_strip, Form.map_map, lower_eq text tree]
    refine congrArg (Term.node _) (Form.map_congr fun child planned => ?_)
    have smaller := Nat.lt_of_lt_of_le (size_lt_of_mem_plan planned) (size_unwrap_le tree)
    exact inductionHypothesis child.size smaller child rfl

theorem lower_eq_of_strip_eq {left right : Concrete} (same : left.strip = right.strip) :
    lower text left = lower text right := by
  rw [← lower_strip, same, lower_strip]

end Lowering

/-! ### Where a comment is inserted -/

/-- A place between the children of a node. -/
structure Gap where
  label : ConcreteLabel
  before : List Concrete
  after : List Concrete

namespace Gap

/-- The node with a tree in the gap. -/
def fill (gap : Gap) (tree : Concrete) : Concrete :=
  .node gap.label (gap.before ++ tree :: gap.after)

/-- The node without anything in the gap. -/
def close (gap : Gap) : Concrete := .node gap.label (gap.before ++ gap.after)

/-- Fills the last of several gaps, each of which is a place in what fills the one before. -/
def fillAll (gaps : List Gap) (tree : Concrete) : Concrete := gaps.foldr fill tree

theorem strip_fill_of_isComment (gap : Gap) {comment : Concrete}
    (isComment : comment.isComment = true) : (gap.fill comment).strip = gap.close.strip := by
  rw [fill, Concrete.strip, close, Concrete.strip, Concrete.stripAll_eq, Concrete.stripAll_eq,
    List.filter_append, List.filter_cons_of_neg (by simp [isComment]), ← List.filter_append]

/-- Trees with the same label that are the same without comments can be exchanged. -/
theorem strip_fillAll_congr (gaps : List Gap) {left right : Concrete}
    (label : left.label = right.label) (same : left.strip = right.strip) :
    (fillAll gaps left).label = (fillAll gaps right).label ∧
      (fillAll gaps left).strip = (fillAll gaps right).strip := by
  induction gaps with
  | nil => exact ⟨label, same⟩
  | cons gap rest inductionHypothesis =>
    obtain ⟨sameLabel, sameBelow⟩ := inductionHypothesis
    refine ⟨rfl, ?_⟩
    have sameComment :
        (fillAll rest left).isComment = (fillAll rest right).isComment := by
      rw [Concrete.isComment, sameLabel, Concrete.isComment]
    show (gap.fill (fillAll rest left)).strip = (gap.fill (fillAll rest right)).strip
    rw [fill, Concrete.strip, fill, Concrete.strip, Concrete.stripAll_eq, Concrete.stripAll_eq,
      List.filter_append, List.filter_append, List.filter_cons, List.filter_cons, sameComment]
    split
    · rw [List.map_append, List.map_append, List.map_cons, List.map_cons, sameBelow]
    · rfl

/-- A comment can be inserted anywhere. -/
theorem lower_fillAll_of_isComment (text : List Char) (gaps : List Gap) (gap : Gap)
    {comment : Concrete} (isComment : comment.isComment = true) :
    Lowering.lower text (fillAll gaps (gap.fill comment)) =
      Lowering.lower text (fillAll gaps gap.close) := by
  have label : (gap.fill comment).label = gap.close.label := rfl
  have inserted := strip_fillAll_congr gaps label (gap.strip_fill_of_isComment isComment)
  exact Lowering.lower_eq_of_strip_eq text inserted.2

end Gap

end ErrorLint
