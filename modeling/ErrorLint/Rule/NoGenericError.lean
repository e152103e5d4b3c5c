/-
This file holds the rule that a throw names a specific error class. If the message is
a string literal, it suggests a class, and the fix renames the constructor to it; the
arguments stay.
-/

import ErrorLint.Config.Record
import ErrorLint.Diagnostic
import ErrorLint.Rule.Matching

namespace ErrorLint.NoGenericError

structure Options where
  /-- The classes that the rule leaves alone. -/
  allowedErrorNames : List String
  deriving Repr, DecidableEq

def Options.defaults : Options := ⟨[]⟩

def Options.fields : List (RecordField Value Options) := [
  RecordField.of "allowedErrorNames" Value.readStrings fun value options =>
    { options with allowedErrorNames := value }]

def Options.read : Value → Except Mismatch Options :=
  Value.readRecord "NoGenericErrorOptions" Options.fields Options.defaults

/-- What the rule says about a generic error that is thrown. -/
def reportGeneric (thrown callee : Node) : Report :=
  match Node.suggestion? thrown.firstArgument? with
  | some category =>
    ((Report.plain thrown.place "noGenericErrorWithSuggestion").withData "suggestion"
      (.text category.className)).withFix ⟨callee.span, category.className⟩
  | none => Report.plain thrown.place "noGenericError"

/-- What the rule says about a node. -/
def reports (options : Options) (node : Node) : List Report :=
  if options.allowedErrorNames.contains "Error" then []
  else
    match node.thrown? with
    | none => []
    | some thrown =>
      match thrown.directConstructor? with
      | some (callee, "Error") => [reportGeneric thrown callee]
      | _ => []

end ErrorLint.NoGenericError
