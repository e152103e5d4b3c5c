/-
This file holds the rule that a message which is thrown again and again with one error
class belongs into that class. The uses are collected on the way through the tree, and
reported at its end, one report for each use.
-/

import ErrorLint.Config.Record
import ErrorLint.Diagnostic
import ErrorLint.Rule.ImportedNames
import ErrorLint.Rule.Matching
import ErrorLint.Rule.Occurrences

namespace ErrorLint.RequireHardcodedErrorMessage

structure Options where
  /-- How often a message has to be used with a class to be reported. -/
  threshold : Nat
  ignoreErrorClasses : List String
  checkImportedErrors : Bool
  deriving Repr, DecidableEq

/-- The least threshold: one use is no repetition. -/
def minThreshold : Nat := 2

def Options.defaults : Options := ⟨minThreshold, [], true⟩

def Options.fields : List (RecordField Value Options) := [
  RecordField.of "threshold" Value.readCount fun value options =>
    { options with threshold := value },
  RecordField.of "ignoreErrorClasses" Value.readStrings fun value options =>
    { options with ignoreErrorClasses := value },
  RecordField.of "checkImportedErrors" Value.readBoolean fun value options =>
    { options with checkImportedErrors := value }]

def Options.read : Value → Except Mismatch Options :=
  Value.readRecord "RequireHardcodedErrorMessageOptions" Options.fields Options.defaults

/-- What is said about a threshold that is too low. -/
def lowThresholdMessage (threshold : Nat) : String :=
  "threshold must be at least " ++ toString minThreshold ++ ", got " ++ toString threshold

/-- Whether the rule passes over a class. -/
def Options.skips (options : Options) (imported : ImportedNames) (name : String) : Bool :=
  name = "Error" || options.ignoreErrorClasses.contains name ||
    (!options.checkImportedErrors && imported.contains name)

/-- A use of a message: the class, the message, and the place of the message. -/
structure Use where
  errorClass : String
  message : String
  place : Place
  deriving Repr, DecidableEq

/-- The use of a message that a throw is. -/
def use? (options : Options) (imported : ImportedNames) (node : Node) : Option Use := do
  let thrown ← node.thrown?
  let (_, name) ← thrown.directConstructor?
  guard (!options.skips imported name)
  let argument ← thrown.firstArgument?
  let message ← argument.stringValue?
  return ⟨name, message, argument.place⟩

/-- Adds the use that a node is. -/
def collect (options : Options) (imported : ImportedNames) (index : Occurrences Place)
    (node : Node) : Occurrences Place :=
  match use? options imported node with
  | some use => index.insert use.errorClass use.message use.place
  | none => index

/-- The report of one use of a repeated message. -/
def reportUse (group : MessageGroup Place) (place : Place) : Report :=
  (((Report.plain place "repeatedErrorMessage").withData "message" (.text group.message)).withData
    "count" (.count group.sites.length)).withData "errorClass" (.text group.errorClass)

/-- What the rule says after the whole tree. -/
def closingReports (options : Options) (index : Occurrences Place) : List Report :=
  (index.repeated options.threshold).flatMap fun group => group.sites.map (reportUse group)

end ErrorLint.RequireHardcodedErrorMessage
