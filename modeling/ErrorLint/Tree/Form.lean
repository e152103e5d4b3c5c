/-
This file holds the shapes that the rules see. A form says what a node is and which
children fill its roles; it leaves open what a child is, so that one type serves the
concrete children that are still to be lowered, the lowered terms, the numbered
nodes and the bare numbers of a listing. Children are always listed in source order.
-/

namespace ErrorLint

/-- The value of a literal. Numbers and regular expressions keep their spelling. -/
inductive Literal where
  | string (value : String)
  | number (text : String)
  | boolean (value : Bool)
  | null
  | regex (text : String)
  deriving Repr, DecidableEq

/-- How an import introduces a name. -/
inductive BindingStyle where
  | default
  | named
  | namespace
  deriving Repr, DecidableEq

/-- A local name introduced by an import. -/
structure Binding where
  style : BindingStyle
  name : String
  deriving Repr, DecidableEq

/-- The shape of a node over children of type `α`. -/
inductive Form (α : Type) where
  | program (body : List α)
  | throwing (argument : Option α)
  | construction (callee : α) (arguments : List α)
  | call (callee : α) (arguments : List α)
  | literal (value : Literal)
  | template (substitutions : List α)
  | identifier (name : String)
  | unary (operator : String) (argument : α)
  | member (owner : α) (property : String)
  | object (properties : List α)
  | classDeclaration (name superclass body : Option α)
  | importDeclaration (bindings : List Binding) (source : String)
  | other (symbol : String) (children : List α)
  deriving Repr, DecidableEq

/-- The shapes without their contents. Rules say by them what they want to see. -/
inductive Shape where
  | program
  | throwing
  | construction
  | call
  | literal
  | template
  | identifier
  | unary
  | member
  | object
  | classDeclaration
  | importDeclaration
  | other
  deriving Repr, DecidableEq

/-- The short name of a shape. -/
def Shape.name : Shape → String
  | .program => "program"
  | .throwing => "throw"
  | .construction => "new"
  | .call => "call"
  | .literal => "literal"
  | .template => "template"
  | .identifier => "identifier"
  | .unary => "unary"
  | .member => "member"
  | .object => "object"
  | .classDeclaration => "class"
  | .importDeclaration => "import"
  | .other => "other"

namespace Form

variable {α β : Type}

/-- The shape of a form. -/
def shape : Form α → Shape
  | program _ => .program
  | throwing _ => .throwing
  | construction _ _ => .construction
  | call _ _ => .call
  | literal _ => .literal
  | template _ => .template
  | identifier _ => .identifier
  | unary _ _ => .unary
  | member _ _ => .member
  | object _ => .object
  | classDeclaration _ _ _ => .classDeclaration
  | importDeclaration _ _ => .importDeclaration
  | other _ _ => .other

/-- The children of a form, in source order. -/
def children : Form α → List α
  | program body => body
  | throwing argument => argument.toList
  | construction callee arguments => callee :: arguments
  | call callee arguments => callee :: arguments
  | literal _ => []
  | template substitutions => substitutions
  | identifier _ => []
  | unary _ argument => [argument]
  | member owner _ => [owner]
  | object properties => properties
  | classDeclaration name superclass body => name.toList ++ superclass.toList ++ body.toList
  | importDeclaration _ _ => []
  | other _ children => children

/-- Replaces every child. -/
def map (f : α → β) : Form α → Form β
  | program body => program (body.map f)
  | throwing argument => throwing (argument.map f)
  | construction callee arguments => construction (f callee) (arguments.map f)
  | call callee arguments => call (f callee) (arguments.map f)
  | literal value => literal value
  | template substitutions => template (substitutions.map f)
  | identifier name => identifier name
  | unary operator argument => unary operator (f argument)
  | member owner property => member (f owner) property
  | object properties => object (properties.map f)
  | classDeclaration name superclass body =>
    classDeclaration (name.map f) (superclass.map f) (body.map f)
  | importDeclaration bindings source => importDeclaration bindings source
  | other symbol children => other symbol (children.map f)

/-- Pairs every child with the fact that it is one. -/
def attach (form : Form α) : Form { child : α // child ∈ form.children } :=
  match form with
  | program body => program body.attach
  | throwing none => throwing none
  | throwing (some argument) => throwing (some ⟨argument, List.mem_cons_self⟩)
  | construction callee arguments =>
    construction ⟨callee, List.mem_cons_self⟩
      (arguments.attach.map fun child => ⟨child.1, List.mem_cons_of_mem _ child.2⟩)
  | call callee arguments =>
    call ⟨callee, List.mem_cons_self⟩
      (arguments.attach.map fun child => ⟨child.1, List.mem_cons_of_mem _ child.2⟩)
  | literal value => literal value
  | template substitutions => template substitutions.attach
  | identifier name => identifier name
  | unary operator argument => unary operator ⟨argument, List.mem_cons_self⟩
  | member owner property => member ⟨owner, List.mem_cons_self⟩ property
  | object properties => object properties.attach
  | classDeclaration name superclass body =>
    classDeclaration
      (name.attach.map fun child => ⟨child.1, by
        simp only [children, List.mem_append, Option.mem_toList]
        exact Or.inl (Or.inl child.2)⟩)
      (superclass.attach.map fun child => ⟨child.1, by
        simp only [children, List.mem_append, Option.mem_toList]
        exact Or.inl (Or.inr child.2)⟩)
      (body.attach.map fun child => ⟨child.1, by
        simp only [children, List.mem_append, Option.mem_toList]
        exact Or.inr child.2⟩)
  | importDeclaration bindings source => importDeclaration bindings source
  | other symbol children => other symbol children.attach

/-! ### Laws of the children -/

@[simp]
theorem shape_map (f : α → β) (form : Form α) : (form.map f).shape = form.shape := by
  cases form <;> rfl

@[simp]
theorem children_map (f : α → β) (form : Form α) :
    (form.map f).children = form.children.map f := by
  cases form <;> simp [map, children, Option.toList_map]

variable {γ : Type}

theorem map_map (f : α → β) (g : β → γ) (form : Form α) :
    (form.map f).map g = form.map (g ∘ f) := by
  cases form <;> simp [map]

/-- Two replacements that agree on the children give the same form. -/
theorem map_congr {f g : α → β} {form : Form α}
    (agree : ∀ child ∈ form.children, f child = g child) : form.map f = form.map g := by
  cases form with
  | throwing argument =>
    cases argument with
    | none => rfl
    | some argument => exact congrArg (throwing ∘ some) (agree argument List.mem_cons_self)
  | classDeclaration name superclass body =>
    simp only [children, List.mem_append, Option.mem_toList] at agree
    simp only [map, classDeclaration.injEq]
    exact ⟨Option.map_congr fun child found => agree child (Or.inl (Or.inl found)),
      Option.map_congr fun child found => agree child (Or.inl (Or.inr found)),
      Option.map_congr fun child found => agree child (Or.inr found)⟩
  | literal value => rfl
  | identifier name => rfl
  | importDeclaration bindings source => rfl
  | _ => simp_all [map, children]

/-- Forgetting the membership facts gives the form back. -/
theorem map_attach (f : α → β) (form : Form α) :
    form.attach.map (fun child => f child.1) = form.map f := by
  cases form with
  | program body => exact congrArg program List.attach_map_val
  | throwing argument => cases argument <;> rfl
  | template substitutions => exact congrArg template List.attach_map_val
  | object properties => exact congrArg object List.attach_map_val
  | other symbol children => exact congrArg (other symbol) List.attach_map_val
  | _ => simp [attach, map, Function.comp_def]

end Form

end ErrorLint
