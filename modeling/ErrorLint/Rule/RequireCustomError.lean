/-
This file holds the rule that errors have classes of their own: a base error is not
thrown directly, a thrown class is named like an error unless it is imported, and a
class that is named like an error extends one.
-/

import ErrorLint.Config.Record
import ErrorLint.Diagnostic
import ErrorLint.Rule.ImportedNames
import ErrorLint.Rule.Matching

namespace ErrorLint.RequireCustomError

structure Options where
  /-- The classes that are to be extended and not thrown. -/
  allowedBaseErrors : List String
  requireErrorSuffix : Bool
  deriving Repr, DecidableEq

def Options.defaults : Options := ⟨["Error"], true⟩

def Options.fields : List (RecordField Value Options) := [
  RecordField.of "allowedBaseErrors" Value.readStrings fun value options =>
    { options with allowedBaseErrors := value },
  RecordField.of "requireErrorSuffix" Value.readBoolean fun value options =>
    { options with requireErrorSuffix := value }]

def Options.read : Value → Except Mismatch Options :=
  Value.readRecord "RequireCustomErrorOptions" Options.fields Options.defaults

def Options.isBaseError (options : Options) (name : String) : Bool :=
  options.allowedBaseErrors.contains name

/-- What the rule says about a throw. -/
def reportThrow (options : Options) (imported : ImportedNames) (node : Node) : Option Report := do
  let thrown ← node.thrown?
  let (callee, name) ← thrown.directConstructor?
  if options.isBaseError name then
    return Report.plain thrown.place "requireCustomError"
  guard (options.requireErrorSuffix && !ErrorName.isErrorType name && !imported.contains name)
  return (Report.plain callee.place "requireErrorSuffix").withFix ⟨callee.span, name ++ "Error"⟩

/-- Whether a superclass makes its class an error. Of a member access too little is
known to say that it does not. -/
def isErrorClass (options : Options) (superclass : Node) : Bool :=
  match superclass.form with
  | .identifier name => options.isBaseError name || ErrorName.isErrorType name
  | .member _ _ => true
  | _ => false

/-- What the rule says about a class. -/
def reportClass (options : Options) (node : Node) : Option Report :=
  match node.form with
  | .classDeclaration (some name) superclass _ =>
    if name.identifierName?.any ErrorName.isErrorType && !superclass.any (isErrorClass options) then
      some (Report.plain name.place "extendError")
    else
      none
  | _ => none

/-- What the rule says about a node, given the names imported before it. -/
def reports (options : Options) (imported : ImportedNames) (node : Node) : List Report :=
  match node.shape with
  | .throwing => (reportThrow options imported node).toList
  | .classDeclaration => (reportClass options node).toList
  | _ => []

end ErrorLint.RequireCustomError
