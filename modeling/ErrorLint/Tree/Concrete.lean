/-
This file holds the concrete tree that a grammar gives for a source text. Every
node carries the grammar's name for it, says whether it is named, whether it is an
extra such as a comment, in which field of its parent it stands, and where it starts
and ends. Lowering looks at few of those names, so they are gathered in one
enumeration; all other names are plain.
-/

import ErrorLint.Text.Span

namespace ErrorLint

/-- The grammar's nodes that lowering tells apart. -/
inductive Kind where
  | program
  | throwStatement
  | newExpression
  | callExpression
  | arguments
  | string
  | number
  | trueLiteral
  | falseLiteral
  | nullLiteral
  | regex
  | templateString
  | templateSubstitution
  | identifier
  | typeIdentifier
  | undefinedName
  | unaryExpression
  | memberExpression
  | object
  | classDeclaration
  | abstractClassDeclaration
  | classHeritage
  | extendsClause
  | implementsClause
  | importStatement
  | importClause
  | importRequireClause
  | namespaceImport
  | namedImports
  | importSpecifier
  | parenthesized
  | plain
  deriving Repr, DecidableEq

/-- The kind that a name of the grammar stands for. -/
def Kind.ofSymbol : String → Kind
  | "program" => .program
  | "throw_statement" => .throwStatement
  | "new_expression" => .newExpression
  | "call_expression" => .callExpression
  | "arguments" => .arguments
  | "string" => .string
  | "number" => .number
  | "true" => .trueLiteral
  | "false" => .falseLiteral
  | "null" => .nullLiteral
  | "regex" => .regex
  | "template_string" => .templateString
  | "template_substitution" => .templateSubstitution
  | "identifier" => .identifier
  | "type_identifier" => .typeIdentifier
  | "undefined" => .undefinedName
  | "unary_expression" => .unaryExpression
  | "member_expression" => .memberExpression
  | "object" => .object
  | "class_declaration" => .classDeclaration
  | "abstract_class_declaration" => .abstractClassDeclaration
  | "class_heritage" => .classHeritage
  | "extends_clause" => .extendsClause
  | "implements_clause" => .implementsClause
  | "import_statement" => .importStatement
  | "import_clause" => .importClause
  | "import_require_clause" => .importRequireClause
  | "namespace_import" => .namespaceImport
  | "named_imports" => .namedImports
  | "import_specifier" => .importSpecifier
  | "parenthesized_expression" => .parenthesized
  | _ => .plain

/-- A row and a byte column, both counted from zero. -/
structure Point where
  row : Nat
  column : Nat
  deriving Repr, DecidableEq

/-- What a node of the concrete tree says about itself. -/
structure ConcreteLabel where
  /-- The grammar's name for the node. -/
  symbol : String
  named : Bool
  extra : Bool
  /-- The field of the parent in which the node stands. -/
  field : Option String
  span : Span
  /-- Where the node starts, as the grammar has counted it. -/
  point : Point
  deriving Repr, DecidableEq

/-- The kind of a labelled node. -/
def ConcreteLabel.kind (label : ConcreteLabel) : Kind := Kind.ofSymbol label.symbol

/-- A concrete tree. -/
inductive Concrete where
  | node (label : ConcreteLabel) (children : List Concrete)
  deriving Repr

namespace Concrete

def label : Concrete → ConcreteLabel
  | node label _ => label

def children : Concrete → List Concrete
  | node _ children => children

def kind (tree : Concrete) : Kind := tree.label.kind

def span (tree : Concrete) : Span := tree.label.span

/-- The place of a node. It counts lines and columns from one. -/
def place (tree : Concrete) : Place :=
  ⟨tree.span, ⟨tree.label.point.row + 1, tree.label.point.column + 1⟩⟩

/-- A part is a child that carries meaning: it is named and no extra. -/
def isPart (tree : Concrete) : Bool := tree.label.named && !tree.label.extra

/-- The parts of a node, in source order. -/
def parts (tree : Concrete) : List Concrete := tree.children.filter isPart

/-- The first child that stands in the given field, whether it is a part or not. -/
def field? (tree : Concrete) (name : String) : Option Concrete :=
  tree.children.find? fun child => child.label.field = some name

mutual

/-- The number of nodes of a tree. -/
def size : Concrete → Nat
  | node _ children => sizes children + 1

/-- The number of nodes of several trees. -/
def sizes : List Concrete → Nat
  | [] => 0
  | tree :: rest => size tree + sizes rest

end

mutual

/-- Looks through parentheses: a parenthesized node stands for its first part. -/
def unwrap : Concrete → Concrete
  | node label children =>
    if label.kind = .parenthesized then (unwrapFirst children).getD (node label children)
    else node label children

/-- The first part of a list, without parentheses around it. -/
def unwrapFirst : List Concrete → Option Concrete
  | [] => none
  | tree :: rest => if tree.isPart then some (unwrap tree) else unwrapFirst rest

end

/-! ### Parentheses -/

theorem unwrapFirst_eq (list : List Concrete) :
    unwrapFirst list = (list.filter isPart).head?.map unwrap := by
  induction list with
  | nil => simp [unwrapFirst]
  | cons tree rest inductionHypothesis =>
    rw [unwrapFirst, inductionHypothesis]
    by_cases isPart : tree.isPart <;> simp [isPart]

/-- Nothing else than parentheses is looked through. -/
theorem unwrap_of_kind_ne {tree : Concrete} (other : tree.kind ≠ .parenthesized) :
    tree.unwrap = tree := by
  obtain ⟨label, children⟩ := tree
  rw [unwrap]
  exact if_neg other

/-- Parentheses stand for their first part. -/
theorem unwrap_of_head?_eq_some {tree part : Concrete} (kind : tree.kind = .parenthesized)
    (first : tree.parts.head? = some part) : tree.unwrap = part.unwrap := by
  obtain ⟨label, children⟩ := tree
  have found : unwrapFirst children = some part.unwrap := by
    rw [unwrapFirst_eq, show (children.filter isPart).head? = some part from first]
    rfl
  rw [unwrap, found]
  exact if_pos kind

/-- Parentheses without a part stand for themselves. -/
theorem unwrap_of_head?_eq_none {tree : Concrete} (empty : tree.parts.head? = none) :
    tree.unwrap = tree := by
  obtain ⟨label, children⟩ := tree
  have found : unwrapFirst children = none := by
    rw [unwrapFirst_eq, show (children.filter isPart).head? = none from empty]
    rfl
  rw [unwrap, found]
  exact ite_self _

/-! ### Descendants are smaller -/

theorem size_le_sizes {tree : Concrete} {list : List Concrete} (member : tree ∈ list) :
    tree.size ≤ sizes list := by
  induction list with
  | nil => cases member
  | cons head rest inductionHypothesis =>
    simp only [sizes]
    rcases List.mem_cons.mp member with rfl | inRest
    · omega
    · have bound := inductionHypothesis inRest
      omega

theorem size_lt_of_mem_children {child tree : Concrete} (member : child ∈ tree.children) :
    child.size < tree.size := by
  obtain ⟨label, children⟩ := tree
  have bound := size_le_sizes member
  simp only [size]
  exact Nat.lt_succ_of_le bound

theorem size_lt_of_mem_parts {child tree : Concrete} (member : child ∈ tree.parts) :
    child.size < tree.size :=
  size_lt_of_mem_children (List.mem_filter.mp member).1

theorem size_lt_of_field? {child tree : Concrete} {name : String}
    (found : tree.field? name = some child) : child.size < tree.size :=
  size_lt_of_mem_children (List.mem_of_find?_eq_some found)

mutual

theorem size_unwrap_le (tree : Concrete) : tree.unwrap.size ≤ tree.size := by
  obtain ⟨label, children⟩ := tree
  rw [unwrap]
  split
  · cases found : unwrapFirst children with
    | none => exact Nat.le_refl _
    | some inner =>
      have bound := size_unwrapFirst_le children inner found
      simp only [Option.getD_some, size]
      omega
  · exact Nat.le_refl _

theorem size_unwrapFirst_le (list : List Concrete) (inner : Concrete)
    (found : unwrapFirst list = some inner) : inner.size ≤ sizes list := by
  cases list with
  | nil => simp [unwrapFirst] at found
  | cons tree rest =>
    rw [unwrapFirst] at found
    simp only [sizes]
    split at found
    · have bound := size_unwrap_le tree
      simp only [Option.some.injEq] at found
      rw [← found]
      omega
    · have bound := size_unwrapFirst_le rest inner found
      omega

end

end Concrete

end ErrorLint
