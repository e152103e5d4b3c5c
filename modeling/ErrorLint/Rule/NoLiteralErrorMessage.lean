/-
This file holds the rule that an error is not given its message as a literal. It looks
at every construction of a class that is named like an error, and at every call of an
error class of the language, whether the result is thrown or not.
-/

import ErrorLint.Config.Record
import ErrorLint.Diagnostic
import ErrorLint.Pattern.Engine
import ErrorLint.Rule.Matching

namespace ErrorLint.NoLiteralErrorMessage

structure Options where
  allowedErrorClasses : List String
  /-- Patterns that are searched for in the name of the class. -/
  allowedPatterns : List String
  checkTemplateLiterals : Bool
  deriving Repr, DecidableEq

def Options.defaults : Options := ⟨[], [], true⟩

def Options.fields : List (RecordField Value Options) := [
  RecordField.of "allowedErrorClasses" Value.readStrings fun value options =>
    { options with allowedErrorClasses := value },
  RecordField.of "allowedPatterns" Value.readStrings fun value options =>
    { options with allowedPatterns := value },
  RecordField.of "checkTemplateLiterals" Value.readBoolean fun value options =>
    { options with checkTemplateLiterals := value }]

def Options.read : Value → Except Mismatch Options :=
  Value.readRecord "NoLiteralErrorMessageOptions" Options.fields Options.defaults

/-- The rule with its patterns made into tests of names. -/
structure Settings where
  allowedErrorClasses : List String
  allowedPatterns : List (String → Bool)
  checkTemplateLiterals : Bool

/-- Makes tests of the patterns, one after the other. The first pattern that is none is given
back, with what is wrong with it. -/
def compilePatterns (engine : PatternEngine) :
    List String → Except (String × String) (List (String → Bool))
  | [] => .ok []
  | pattern :: rest =>
    match engine.compile pattern with
    | .error message => .error (pattern, message)
    | .ok test => (compilePatterns engine rest).map (test :: ·)

/-- The rule of the given options, or the first pattern that is none and what is wrong with
it. -/
def Settings.ofOptions (engine : PatternEngine) (options : Options) :
    Except (String × String) Settings :=
  (compilePatterns engine options.allowedPatterns).map fun tests =>
    ⟨options.allowedErrorClasses, tests, options.checkTemplateLiterals⟩

/-- Whether a class may be given literal messages. -/
def Settings.allows (settings : Settings) (name : String) : Bool :=
  settings.allowedErrorClasses.contains name || settings.allowedPatterns.any (· name)

/-- The number of characters of a message that a report shows. -/
def previewLength : Nat := 30

/-- The message as a report shows it. -/
def preview (message : String) : String :=
  let text := message.toList
  if previewLength < text.length then String.ofList (text.take previewLength ++ ['.', '.', '.'])
  else message

/-- The class that a node constructs, if the rule looks at it. -/
def checkedClass? (node : Node) : Option String :=
  match node.form with
  | .construction callee _ => callee.typeName?.filter ErrorName.isErrorType
  | .call callee _ => callee.typeName?.filter ErrorName.isBuiltin
  | _ => none

/-- What the rule says about the first argument of an error of the class. -/
def reportArgument (settings : Settings) (name : String) (argument : Node) : Option Report :=
  match argument.stringValue? with
  | some message =>
    some (((Report.plain argument.place "noLiteralMessage").withData "message"
      (.text (preview message))).withData "errorClass" (.text name))
  | none =>
    if settings.checkTemplateLiterals && argument.shape = .template then
      some ((Report.plain argument.place "noTemplateLiteralMessage").withData
        "errorClass" (.text name))
    else
      none

/-- What the rule says about a node. -/
def reports (settings : Settings) (node : Node) : List Report :=
  match (checkedClass? node).filter (!settings.allows ·) with
  | none => []
  | some name => (node.firstArgument?.bind (reportArgument settings name)).toList

end ErrorLint.NoLiteralErrorMessage
