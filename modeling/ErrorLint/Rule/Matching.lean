/-
This file holds the questions that rules ask about a node: what a throw throws, which
class a construction names, what its first argument is and whether that is a text.
-/

import ErrorLint.Message.Category
import ErrorLint.Rule.ErrorName
import ErrorLint.Tree.Term

namespace ErrorLint.Node

/-- The name of an identifier. -/
def identifierName? (node : Node) : Option String :=
  match node.form with
  | .identifier name => some name
  | _ => none

/-- The callee of a construction and its name, if the callee is an identifier. -/
def directConstructor? (node : Node) : Option (Node × String) :=
  match node.form with
  | .construction callee _ => callee.identifierName?.map fun name => (callee, name)
  | _ => none

/-- Whether the node constructs a class that is named like an error. -/
def isErrorConstruction (node : Node) : Bool :=
  node.directConstructor?.any fun callee => ErrorName.isErrorType callee.2

/-- Whether the node is a literal, a template, or a literal with a minus sign. -/
def isLiteralValue (node : Node) : Bool :=
  match node.form with
  | .literal _ | .template _ => true
  | .unary operator argument => operator = "-" && argument.shape = .literal
  | _ => false

/-- The name of an identifier, or the property that a member access ends in. -/
def typeName? (node : Node) : Option String :=
  match node.form with
  | .identifier name => some name
  | .member _ property => some property
  | _ => none

/-- The value of a string literal. -/
def stringValue? (node : Node) : Option String :=
  match node.form with
  | .literal (.string value) => some value
  | _ => none

/-- The first argument of a construction or a call. -/
def firstArgument? (node : Node) : Option Node :=
  match node.form with
  | .construction _ arguments | .call _ arguments => arguments.head?
  | _ => none

/-- What a throw throws. -/
def thrown? (node : Node) : Option Node :=
  match node.form with
  | .throwing argument => argument
  | _ => none

/-- The category that a message suggests. Only a string literal suggests one. -/
def suggestion? (argument : Option Node) : Option Category :=
  (argument.bind stringValue?).map Category.ofMessage

end ErrorLint.Node
