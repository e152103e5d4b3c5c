/-
This file lowers a concrete tree into a table with a stack of its own, so that the depth
of a tree is bounded by nothing but memory. A node gets the next free row when it is
first reached, and with it its number; its form is written into the row when all its
children have their numbers. In between a frame stands for the node on the stack: what
the node will become, the children that are still to be lowered, and the numbers of those
that are. What a node will become is an outline, which knows its children by their order
only.
-/

import ErrorLint.Source.Unit
import ErrorLint.Tree.Listing
import ErrorLint.Tree.Lowering

namespace ErrorLint

/-- What a node becomes once its children have their numbers. A class says which of its
three parts are there, and a leaf is complete as it is. -/
inductive Outline where
  | program
  | throwing
  | construction
  | call
  | template
  | unary (operator : String)
  | member (property : String)
  | object
  | classDeclaration (name superclass body : Bool)
  | other (symbol : String)
  | leaf (form : Form Nat)
  deriving Repr, DecidableEq

/-- The forms that stand in for a missing one: that of a node whose children are not all
lowered, and that of a node which lacks a child that its outline needs. -/
structure StandIns where
  unfinished : Form Nat
  unshaped : String → Form Nat

/-- A form without children stands in for a missing one. -/
def StandIns.standard : StandIns := ⟨.other "" [], fun symbol => .other symbol []⟩

namespace Outline

/-- The first number, if a part is present, and the numbers that remain. -/
def takePart (present : Bool) (ids : List Nat) : Option Nat × List Nat :=
  if present then (ids.head?, ids.tail) else (none, ids)

/-- The form of an outline over the numbers of its children. -/
def assemble (standIns : StandIns) : Outline → List Nat → Form Nat
  | program, ids => .program ids
  | throwing, ids => .throwing ids.head?
  | construction, callee :: arguments => .construction callee arguments
  | construction, [] => standIns.unshaped "new_expression"
  | call, callee :: arguments => .call callee arguments
  | call, [] => standIns.unshaped "call_expression"
  | template, ids => .template ids
  | unary operator, argument :: _ => .unary operator argument
  | unary _, [] => standIns.unshaped "unary_expression"
  | member property, owner :: _ => .member owner property
  | member _, [] => standIns.unshaped "member_expression"
  | object, ids => .object ids
  | classDeclaration name superclass body, ids =>
    let (nameId, afterName) := takePart name ids
    let (superclassId, afterSuperclass) := takePart superclass afterName
    let (bodyId, _) := takePart body afterSuperclass
    .classDeclaration nameId superclassId bodyId
  | other symbol, ids => .other symbol ids
  | leaf form, _ => form

end Outline

namespace Lowering

/-- The outline of a node without a form of its own, with its parts. -/
def plainOutline (tree : Concrete) : Outline × List Concrete :=
  (.other tree.label.symbol, tree.parts)

/-- The outline of a node, with the concrete nodes to lower for it in source order. -/
def outline (text : List Char) (tree : Concrete) : Outline × List Concrete :=
  match tree.kind with
  | .program => (.program, tree.parts)
  | .throwStatement => (.throwing, tree.parts.take 1)
  | .newExpression =>
    match tree.field? "constructor" with
    | some callee =>
      (.construction, callee :: ((tree.field? "arguments").map Concrete.parts).getD [])
    | none => plainOutline tree
  | .callExpression =>
    match tree.field? "function", tree.field? "arguments" with
    | some callee, some arguments =>
      if arguments.kind = .arguments then (.call, callee :: arguments.parts)
      else plainOutline tree
    | _, _ => plainOutline tree
  | .string => (.leaf (.literal (.string (StringLiteral.value (textOf text tree)))), [])
  | .number => (.leaf (.literal (.number (textOf text tree))), [])
  | .trueLiteral => (.leaf (.literal (.boolean true)), [])
  | .falseLiteral => (.leaf (.literal (.boolean false)), [])
  | .nullLiteral => (.leaf (.literal .null), [])
  | .regex => (.leaf (.literal (.regex (textOf text tree))), [])
  | .templateString => (.template, substitutions tree)
  | .identifier | .typeIdentifier | .undefinedName => (.leaf (.identifier (textOf text tree)), [])
  | .unaryExpression =>
    match tree.field? "operator", tree.field? "argument" with
    | some operator, some argument => (.unary (textOf text operator), [argument])
    | _, _ => plainOutline tree
  | .memberExpression =>
    match tree.field? "object", tree.field? "property" with
    | some owner, some property => (.member (textOf text property), [owner])
    | _, _ => plainOutline tree
  | .object => (.object, tree.parts)
  | .classDeclaration | .abstractClassDeclaration =>
    let name := tree.field? "name"
    let superclass := superclass? tree
    let body := tree.field? "body"
    (.classDeclaration name.isSome superclass.isSome body.isSome,
      name.toList ++ superclass.toList ++ body.toList)
  | .importStatement =>
    (.leaf (.importDeclaration (importBindings text tree) (importSource text tree)), [])
  | _ => plainOutline tree

/-! ### The outline and the plan of a node -/

/-- The outline of a form: what is left of it without its children. -/
def outlineOf {α : Type} : Form α → Outline
  | .program _ => .program
  | .throwing _ => .throwing
  | .construction _ _ => .construction
  | .call _ _ => .call
  | .literal value => .leaf (.literal value)
  | .template _ => .template
  | .identifier name => .leaf (.identifier name)
  | .unary operator _ => .unary operator
  | .member _ property => .member property
  | .object _ => .object
  | .classDeclaration name superclass body =>
    .classDeclaration name.isSome superclass.isSome body.isSome
  | .importDeclaration bindings source => .leaf (.importDeclaration bindings source)
  | .other symbol _ => .other symbol

/-- The outline of a node is that of its plan, and the nodes to lower for it are those that
the plan puts into the roles. -/
theorem outline_eq (text : List Char) (tree : Concrete) :
    outline text tree = (outlineOf (plan text tree), (plan text tree).children) := by
  cases kind : tree.kind <;> simp only [outline, plan, kind] <;> try rfl
  case throwStatement => cases tree.parts <;> rfl
  case newExpression =>
    cases tree.field? "constructor" with
    | none => rfl
    | some callee => cases tree.field? "arguments" <;> rfl
  case callExpression =>
    cases tree.field? "function" with
    | none => rfl
    | some callee =>
      cases tree.field? "arguments" with
      | none => rfl
      | some arguments =>
        by_cases isList : arguments.kind = .arguments
        · simp only [if_pos isList]
          rfl
        · simp only [if_neg isList]
          rfl
  case unaryExpression =>
    cases tree.field? "operator" <;> cases tree.field? "argument" <;> rfl
  case memberExpression =>
    cases tree.field? "object" <;> cases tree.field? "property" <;> rfl

/-- Every node to lower for an outline lies strictly below the node. -/
theorem size_lt_of_mem_outline {text : List Char} {tree child : Concrete}
    (member : child ∈ (outline text tree).2) : child.size < tree.size := by
  rw [outline_eq] at member
  exact size_lt_of_mem_plan member

/-- Several numbers of steps together. -/
def total (counts : List Nat) : Nat := counts.foldr (· + ·) 0

@[simp]
theorem total_cons (count : Nat) (counts : List Nat) :
    total (count :: counts) = count + total counts := rfl

/-- The steps that it takes to lower a node: it is opened, its children are lowered, and it
is closed. -/
def steps (text : List Char) (tree : Concrete) : Nat :=
  total ((outline text tree.unwrap).2.attach.map fun child => steps text child.1) + 2
termination_by tree.size
decreasing_by
  have inner := size_lt_of_mem_outline child.2
  have outer := Concrete.size_unwrap_le tree
  omega

theorem steps_eq (text : List Char) (tree : Concrete) :
    steps text tree = total ((outline text tree.unwrap).2.map (steps text)) + 2 := by
  rw [steps, List.attach_map_val]

end Lowering

/-- A table of nodes, each in the row of its number. -/
structure Arena where
  rows : Array Row
  deriving Repr, DecidableEq

namespace Arena

/-- A table without rows. -/
def empty : Arena := ⟨#[]⟩

/-- Takes the next free row for a node. -/
def alloc (arena : Arena) (place : Place) (parent : Option Nat) (form : Form Nat) : Arena :=
  ⟨arena.rows.push ⟨place, parent, form⟩⟩

/-- Writes a form into a row. -/
def setForm (arena : Arena) (id : Nat) (form : Form Nat) : Arena :=
  ⟨arena.rows.modify id fun row => { row with form := form }⟩

/-- A node that has its number while its children are still being lowered. -/
structure Frame where
  id : Nat
  outline : Outline
  /-- The children that are still to be lowered. -/
  pending : List Concrete
  /-- The numbers of the children that are lowered. -/
  lowered : Array Nat

/-- The steps that a frame still takes. -/
def Frame.steps (text : List Char) (frame : Frame) : Nat :=
  Lowering.total (frame.pending.map (Lowering.steps text)) + 1

/-- Opens a node: it gets a number, and a frame that waits for its children. Parentheses
around it are looked through. -/
def openNode (standIns : StandIns) (text : List Char) (arena : Arena) (tree : Concrete)
    (parent : Option Nat) : Frame × Arena :=
  let inner := tree.unwrap
  let planned := Lowering.outline text inner
  (⟨arena.rows.size, planned.1, planned.2, #[]⟩,
    arena.alloc inner.place parent standIns.unfinished)

/-- Tells the frame on top of the stack the number of a child that is lowered. -/
def report (id : Nat) : List Frame → List Frame
  | [] => []
  | parent :: rest => { parent with lowered := parent.lowered.push id } :: rest

/-- Works off a stack of frames. The frame on top opens its next child, or is closed if
there is none. -/
def run (standIns : StandIns) (text : List Char) (stack : List Frame) (arena : Arena) : Arena :=
  match stack with
  | [] => arena
  | ⟨id, outline, child :: pending, lowered⟩ :: rest =>
    let opened := openNode standIns text arena child (some id)
    run standIns text (opened.1 :: ⟨id, outline, pending, lowered⟩ :: rest) opened.2
  | ⟨id, outline, [], lowered⟩ :: rest =>
    run standIns text (report id rest)
      (arena.setForm id (outline.assemble standIns lowered.toList))
termination_by Lowering.total (stack.map (Frame.steps text))
decreasing_by
  · simp only [List.map_cons, Lowering.total_cons, Frame.steps, openNode,
      Lowering.steps_eq text child]
    omega
  · cases rest <;> simp [report, Frame.steps]

/-- Lowers a concrete tree over the source text, with the given forms to stand in. -/
def lowerWith (standIns : StandIns) (text : List Char) (tree : Concrete) : Arena :=
  let opened := openNode standIns text empty tree none
  run standIns text [opened.1] opened.2

/-- Lowers a concrete tree over the source text. -/
def lower (text : List Char) (tree : Concrete) : Arena := lowerWith .standard text tree

/-- The table of a source text. -/
def ofSource (parser : Parser) (source : String) (dialect : Dialect) : Arena :=
  lower source.toList (parser source dialect).root

end Arena

end ErrorLint
