/-
This file holds the lowered tree and the numbers of its nodes. A term is a form
whose children are terms, together with its place in the source. Nodes are numbered
in pre-order, so a node comes before its descendants and these directly follow it;
the number of a child is therefore known from the sizes of the children before it.
-/

import ErrorLint.Text.Offset
import ErrorLint.Text.Span
import ErrorLint.Tree.Form

namespace ErrorLint

/-- A lowered tree. -/
inductive Term where
  | node (place : Place) (form : Form Term)
  deriving Repr

namespace Term

def place : Term → Place
  | node place _ => place

def form : Term → Form Term
  | node _ form => form

mutual

/-- The number of nodes of a term. -/
def size : Term → Nat
  | node _ form => sizeBelow form + 1

/-- The number of nodes below a form. -/
def sizeBelow : Form Term → Nat
  | .program body => sizeAll body
  | .throwing argument => sizeOption argument
  | .construction callee arguments => size callee + sizeAll arguments
  | .call callee arguments => size callee + sizeAll arguments
  | .literal _ => 0
  | .template substitutions => sizeAll substitutions
  | .identifier _ => 0
  | .unary _ argument => size argument
  | .member owner _ => size owner
  | .object properties => sizeAll properties
  | .classDeclaration name superclass body =>
    sizeOption name + sizeOption superclass + sizeOption body
  | .importDeclaration _ _ => 0
  | .other _ children => sizeAll children

/-- The number of nodes of several terms. -/
def sizeAll : List Term → Nat
  | [] => 0
  | term :: rest => size term + sizeAll rest

/-- The number of nodes of a term that may be missing. -/
def sizeOption : Option Term → Nat
  | none => 0
  | some term => size term

end

mutual

/-- The term and all terms below it, every term before its descendants. -/
def preorder : Term → List Term
  | node place form => node place form :: preorderBelow form

/-- The terms below a form. -/
def preorderBelow : Form Term → List Term
  | .program body => preorderAll body
  | .throwing argument => preorderOption argument
  | .construction callee arguments => preorder callee ++ preorderAll arguments
  | .call callee arguments => preorder callee ++ preorderAll arguments
  | .literal _ => []
  | .template substitutions => preorderAll substitutions
  | .identifier _ => []
  | .unary _ argument => preorder argument
  | .member owner _ => preorder owner
  | .object properties => preorderAll properties
  | .classDeclaration name superclass body =>
    preorderOption name ++ preorderOption superclass ++ preorderOption body
  | .importDeclaration _ _ => []
  | .other _ children => preorderAll children

/-- The terms of several trees, one tree after the other. -/
def preorderAll : List Term → List Term
  | [] => []
  | term :: rest => preorder term ++ preorderAll rest

/-- The terms of a tree that may be missing. -/
def preorderOption : Option Term → List Term
  | none => []
  | some term => preorder term

end

end Term

/-- A term with its number. -/
structure Node where
  id : Nat
  term : Term
  deriving Repr

namespace Node

def place (node : Node) : Place := node.term.place

def span (node : Node) : Span := node.term.place.span

/-- Numbers several terms, the first of which has the given number. -/
def numbered (next : Nat) : List Term → List Node
  | [] => []
  | term :: rest => ⟨next, term⟩ :: numbered (next + term.size) rest

/-- The form of a node over its numbered children. -/
def form (node : Node) : Form Node :=
  let next := node.id + 1
  match node.term.form with
  | .program body => .program (numbered next body)
  | .throwing argument => .throwing (argument.map (⟨next, ·⟩))
  | .construction callee arguments =>
    .construction ⟨next, callee⟩ (numbered (next + callee.size) arguments)
  | .call callee arguments => .call ⟨next, callee⟩ (numbered (next + callee.size) arguments)
  | .literal value => .literal value
  | .template substitutions => .template (numbered next substitutions)
  | .identifier name => .identifier name
  | .unary operator argument => .unary operator ⟨next, argument⟩
  | .member owner property => .member ⟨next, owner⟩ property
  | .object properties => .object (numbered next properties)
  | .classDeclaration name superclass body =>
    .classDeclaration (name.map (⟨next, ·⟩))
      (superclass.map (⟨next + Term.sizeOption name, ·⟩))
      (body.map (⟨next + Term.sizeOption name + Term.sizeOption superclass, ·⟩))
  | .importDeclaration bindings source => .importDeclaration bindings source
  | .other symbol children => .other symbol (numbered next children)

/-- The shape of a node. -/
def shape (node : Node) : Shape := node.term.form.shape

/-- The numbered children of a node. -/
def children (node : Node) : List Node := node.form.children

/-- The number of a node is all that is added to the form of its term. -/
theorem map_numbered (next : Nat) (terms : List Term) :
    (numbered next terms).map Node.term = terms := by
  induction terms generalizing next with
  | nil => rfl
  | cons term rest inductionHypothesis => simp [numbered, inductionHypothesis]

theorem map_form (node : Node) : node.form.map Node.term = node.term.form := by
  unfold form
  split <;> rename_i equal <;> rw [equal] <;>
    simp [Form.map, map_numbered, Function.comp_def]

end Node

/-- A lowered source text. -/
structure SourceTree where
  source : String
  root : Term
  /-- Whether the grammar had to recover from an error. -/
  hasErrors : Bool

namespace SourceTree

/-- The nodes of a tree in the order of their numbers. -/
def nodes (tree : SourceTree) : List Node :=
  tree.root.preorder.zipIdx.map fun (term, id) => ⟨id, term⟩

/-- The source text of a span. -/
def textAt (tree : SourceTree) (span : Span) : String :=
  String.ofList ((Text.slice? tree.source.toList span.start span.stop).getD [])

end SourceTree

end ErrorLint
