/-
This file turns a concrete tree into a term. For every node a plan names the form
and, for each role of the form, the concrete node that fills it; lowering then fills
the roles by lowering those nodes. Comments never fill a role, parentheses around a
node are looked through, and a node without a form of its own keeps all its parts,
so that whatever stands below it is still reached.
-/

import ErrorLint.StringLiteral
import ErrorLint.Text.Offset
import ErrorLint.Tree.Concrete
import ErrorLint.Tree.Term

namespace ErrorLint.Lowering

/-- The source text of a concrete node. -/
def textOf (text : List Char) (tree : Concrete) : String :=
  String.ofList ((Text.slice? text tree.span.start tree.span.stop).getD [])

/-! ### Imports -/

/-- The names that one part of an import clause introduces. -/
def clausePartBindings (text : List Char) (part : Concrete) : List Binding :=
  match part.kind with
  | .identifier => [⟨.default, textOf text part⟩]
  | .namespaceImport =>
    (part.parts.head?.map fun name => ⟨.namespace, textOf text name⟩).toList
  | .namedImports =>
    (part.parts.filter (·.kind = .importSpecifier)).filterMap fun specifier =>
      ((specifier.field? "alias").or (specifier.field? "name")).map fun name =>
        ⟨.named, textOf text name⟩
  | _ => []

/-- The names that one part of an import statement introduces. -/
def importPartBindings (text : List Char) (part : Concrete) : List Binding :=
  match part.kind with
  | .importClause => part.parts.flatMap (clausePartBindings text)
  | .importRequireClause =>
    ((part.parts.find? (·.kind = .identifier)).map fun name =>
      ⟨.default, textOf text name⟩).toList
  | _ => []

/-- The names that an import statement introduces. -/
def importBindings (text : List Char) (tree : Concrete) : List Binding :=
  tree.parts.flatMap (importPartBindings text)

/-- The module that an import statement names. -/
def importSource (text : List Char) (tree : Concrete) : String :=
  match tree.field? "source" with
  | some source => StringLiteral.value (textOf text source)
  | none => ""

/-! ### Classes and templates -/

/-- The superclass among the parts of a heritage: the value of an extends clause, or
the first part that is no implements clause. -/
def superclassAmong : List Concrete → Option Concrete
  | [] => none
  | part :: rest =>
    match part.kind with
    | .extendsClause => part.field? "value"
    | .implementsClause => superclassAmong rest
    | _ => some part

/-- Implements clauses are passed over, and the first other part decides. -/
theorem superclassAmong_eq (parts : List Concrete) :
    superclassAmong parts =
      (parts.find? (·.kind ≠ .implementsClause)).bind fun first =>
        if first.kind = .extendsClause then first.field? "value" else some first := by
  induction parts with
  | nil => rfl
  | cons part rest inductionHypothesis =>
    rw [superclassAmong]
    by_cases implementing : part.kind = .implementsClause
    · rw [List.find?_cons_of_neg (by simpa using implementing), implementing]
      exact inductionHypothesis
    · rw [List.find?_cons_of_pos (by simpa using implementing), Option.bind_some]
      split
      · rename_i extending
        rw [if_pos extending]
      · contradiction
      · rename_i notExtending _
        rw [if_neg notExtending]

/-- The superclass of a class declaration. -/
def superclass? (tree : Concrete) : Option Concrete :=
  (tree.parts.find? (·.kind = .classHeritage)).bind fun heritage =>
    superclassAmong heritage.parts

/-- The expressions in the holes of a template. -/
def substitutions (tree : Concrete) : List Concrete :=
  (tree.parts.filter (·.kind = .templateSubstitution)).filterMap (·.parts.head?)

/-! ### The plan of a node -/

/-- A node without a form of its own keeps its parts. -/
def plain (tree : Concrete) : Form Concrete := .other tree.label.symbol tree.parts

/-- The form of a node, over the concrete nodes that fill its roles. -/
def plan (text : List Char) (tree : Concrete) : Form Concrete :=
  match tree.kind with
  | .program => .program tree.parts
  | .throwStatement => .throwing tree.parts.head?
  | .newExpression =>
    match tree.field? "constructor" with
    | some callee =>
      match tree.field? "arguments" with
      | some arguments => .construction callee arguments.parts
      | none => .construction callee []
    | none => plain tree
  | .callExpression =>
    match tree.field? "function", tree.field? "arguments" with
    | some callee, some arguments =>
      if arguments.kind = .arguments then .call callee arguments.parts else plain tree
    | _, _ => plain tree
  | .string => .literal (.string (StringLiteral.value (textOf text tree)))
  | .number => .literal (.number (textOf text tree))
  | .trueLiteral => .literal (.boolean true)
  | .falseLiteral => .literal (.boolean false)
  | .nullLiteral => .literal .null
  | .regex => .literal (.regex (textOf text tree))
  | .templateString => .template (substitutions tree)
  | .identifier | .typeIdentifier | .undefinedName => .identifier (textOf text tree)
  | .unaryExpression =>
    match tree.field? "operator", tree.field? "argument" with
    | some operator, some argument => .unary (textOf text operator) argument
    | _, _ => plain tree
  | .memberExpression =>
    match tree.field? "object", tree.field? "property" with
    | some owner, some property => .member owner (textOf text property)
    | _, _ => plain tree
  | .object => .object tree.parts
  | .classDeclaration | .abstractClassDeclaration =>
    .classDeclaration (tree.field? "name") (superclass? tree) (tree.field? "body")
  | .importStatement => .importDeclaration (importBindings text tree) (importSource text tree)
  | _ => plain tree

/-! ### Planned nodes are smaller -/

theorem size_lt_of_superclassAmong {parts : List Concrete} {superclass : Concrete}
    (found : superclassAmong parts = some superclass) :
    ∃ part ∈ parts, superclass.size ≤ part.size := by
  induction parts with
  | nil => cases found
  | cons part rest inductionHypothesis =>
    simp only [superclassAmong] at found
    split at found
    · exact ⟨part, List.mem_cons_self, Nat.le_of_lt (Concrete.size_lt_of_field? found)⟩
    · obtain ⟨other, member, bound⟩ := inductionHypothesis found
      exact ⟨other, List.mem_cons_of_mem _ member, bound⟩
    · obtain rfl := Option.some.inj found
      exact ⟨_, List.mem_cons_self, Nat.le_refl _⟩

theorem size_lt_of_superclass? {tree superclass : Concrete}
    (found : superclass? tree = some superclass) : superclass.size < tree.size := by
  obtain ⟨heritage, located, inner⟩ := Option.bind_eq_some_iff.mp found
  obtain ⟨part, member, bound⟩ := size_lt_of_superclassAmong inner
  have first := Concrete.size_lt_of_mem_parts member
  have second := Concrete.size_lt_of_mem_parts (List.mem_of_find?_eq_some located)
  omega

theorem size_lt_of_mem_substitutions {tree child : Concrete}
    (member : child ∈ substitutions tree) : child.size < tree.size := by
  obtain ⟨hole, inHoles, first⟩ := List.mem_filterMap.mp member
  have inner := Concrete.size_lt_of_mem_parts (List.mem_of_mem_head? first)
  have outer := Concrete.size_lt_of_mem_parts (List.mem_filter.mp inHoles).1
  omega

/-- Every node that fills a role lies strictly below the planned node. -/
theorem size_lt_of_mem_plan {text : List Char} {tree child : Concrete}
    (member : child ∈ (plan text tree).children) : child.size < tree.size := by
  have keptParts : ∀ inner ∈ (plain tree).children, inner.size < tree.size :=
    fun inner inParts => Concrete.size_lt_of_mem_parts inParts
  unfold plan at member
  split at member
  case h_1 => exact Concrete.size_lt_of_mem_parts member
  case h_2 =>
    exact Concrete.size_lt_of_mem_parts (List.mem_of_mem_head? (Option.mem_toList.mp member))
  case h_3 =>
    split at member
    · rename_i callee calleeFound
      split at member
      · rename_i arguments argumentsFound
        rcases List.mem_cons.mp member with rfl | inArguments
        · exact Concrete.size_lt_of_field? calleeFound
        · have inner := Concrete.size_lt_of_mem_parts inArguments
          have outer := Concrete.size_lt_of_field? argumentsFound
          omega
      · rcases List.mem_cons.mp member with rfl | none
        · exact Concrete.size_lt_of_field? calleeFound
        · cases none
    · exact keptParts child member
  case h_4 =>
    split at member
    · rename_i callee arguments calleeFound argumentsFound
      split at member
      · rcases List.mem_cons.mp member with rfl | inArguments
        · exact Concrete.size_lt_of_field? calleeFound
        · have inner := Concrete.size_lt_of_mem_parts inArguments
          have outer := Concrete.size_lt_of_field? argumentsFound
          omega
      · exact keptParts child member
    · exact keptParts child member
  case h_11 => exact size_lt_of_mem_substitutions member
  case h_15 =>
    split at member
    · rename_i operator argument operatorFound argumentFound
      rcases List.mem_cons.mp member with rfl | none
      · exact Concrete.size_lt_of_field? argumentFound
      · cases none
    · exact keptParts child member
  case h_16 =>
    split at member
    · rename_i owner property ownerFound propertyFound
      rcases List.mem_cons.mp member with rfl | none
      · exact Concrete.size_lt_of_field? ownerFound
      · cases none
    · exact keptParts child member
  case h_17 => exact Concrete.size_lt_of_mem_parts member
  case h_18 | h_19 =>
    simp only [Form.children, List.mem_append, Option.mem_toList] at member
    rcases member with (inName | inSuperclass) | inBody
    · exact Concrete.size_lt_of_field? inName
    · exact size_lt_of_superclass? inSuperclass
    · exact Concrete.size_lt_of_field? inBody
  case h_21 => exact keptParts child member
  all_goals cases member

/-! ### Lowering -/

/-- Lowers a concrete tree over the source text. -/
def lower (text : List Char) (tree : Concrete) : Term :=
  .node tree.unwrap.place
    ((plan text tree.unwrap).attach.map fun child => lower text child.1)
termination_by tree.size
decreasing_by
  have inner := size_lt_of_mem_plan child.2
  have outer := Concrete.size_unwrap_le tree
  omega

/-- Lowering looks through parentheses, plans the node, and fills every role by
lowering the node planned for it. -/
theorem lower_eq (text : List Char) (tree : Concrete) :
    lower text tree =
      .node tree.unwrap.place
        ((plan text tree.unwrap).map (lower text)) := by
  rw [lower, Form.map_attach]

end ErrorLint.Lowering
