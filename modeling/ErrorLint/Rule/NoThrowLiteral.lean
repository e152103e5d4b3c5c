/-
This file holds the rule that only error objects are thrown. It reports literals,
objects and bare names; the fix for a literal wraps it into a generic error.
-/

import ErrorLint.Config.Record
import ErrorLint.Diagnostic
import ErrorLint.Rule.Matching

namespace ErrorLint.NoThrowLiteral

structure Options where
  allowThrowingObjects : Bool
  /-- Whether a bare name, whose value is not known, may be thrown. -/
  allowThrowingUnknown : Bool
  deriving Repr, DecidableEq

def Options.defaults : Options := ⟨false, false⟩

def Options.fields : List (RecordField Value Options) := [
  RecordField.of "allowThrowingObjects" Value.readBoolean fun value options =>
    { options with allowThrowingObjects := value },
  RecordField.of "allowThrowingUnknown" Value.readBoolean fun value options =>
    { options with allowThrowingUnknown := value }]

def Options.read : Value → Except Mismatch Options :=
  Value.readRecord "NoThrowLiteralOptions" Options.fields Options.defaults

/-- The fix of a thrown literal: an error that carries it. -/
def wrap (tree : SourceTree) (argument : Node) : Fix :=
  ⟨argument.span, "new Error(" ++ tree.textAt argument.span ++ ")"⟩

/-- What the rule says about something thrown. -/
def reportThrown (options : Options) (tree : SourceTree) (argument : Node) : Option Report :=
  if argument.identifierName? = some "undefined" then
    some (Report.plain argument.place "undef")
  else if argument.isLiteralValue then
    some ((Report.plain argument.place "literal").withFix (wrap tree argument))
  else
    match argument.shape with
    | .object =>
      if options.allowThrowingObjects || argument.isErrorConstruction then none
      else some (Report.plain argument.place "object")
    | .identifier =>
      if options.allowThrowingUnknown then none
      else some (Report.plain argument.place "object")
    | _ => none

/-- What the rule says about a node. -/
def reports (options : Options) (tree : SourceTree) (node : Node) : List Report :=
  (node.thrown?.bind (reportThrown options tree)).toList

end ErrorLint.NoThrowLiteral
