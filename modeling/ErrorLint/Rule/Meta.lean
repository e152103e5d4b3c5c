/-
This file holds what is known about every rule without its options: its id, what it is
for, the shapes that it wants to see, and the templates of its messages.
-/

import ErrorLint.Tree.Form

namespace ErrorLint

/-- The rules. -/
inductive RuleId where
  | noThrowLiteral
  | noGenericError
  | requireCustomError
  | noLiteralErrorMessage
  | requireHardcodedErrorMessage
  deriving Repr, DecidableEq

/-- What kind of advice a rule gives. -/
inductive RuleType where
  | problem
  | suggestion
  deriving Repr, DecidableEq

def RuleType.name : RuleType → String
  | .problem => "problem"
  | .suggestion => "suggestion"

/-- The description of a rule. -/
structure RuleMeta where
  description : String
  ruleType : RuleType
  fixable : Bool
  /-- The shapes of the nodes that the rule is shown. -/
  visits : List Shape
  /-- The template of every message, by the id of the message. -/
  messages : List (String × String)
  deriving Repr, DecidableEq

namespace RuleId

/-- The rules in the order in which they are listed. -/
def all : List RuleId := [
  .noThrowLiteral, .noGenericError, .requireCustomError, .noLiteralErrorMessage,
  .requireHardcodedErrorMessage]

def name : RuleId → String
  | .noThrowLiteral => "no-throw-literal"
  | .noGenericError => "no-generic-error"
  | .requireCustomError => "require-custom-error"
  | .noLiteralErrorMessage => "no-literal-error-message"
  | .requireHardcodedErrorMessage => "require-hardcoded-error-message"

def ofName? (name : String) : Option RuleId := all.find? (·.name = name)

theorem ofName?_name (id : RuleId) : ofName? id.name = some id := by
  cases id <;> decide

theorem ofName?_eq_none_iff {name : String} : ofName? name = none ↔ name ∉ all.map RuleId.name := by
  simp [ofName?]

/-- The page that describes the rule. -/
def docsUrl (id : RuleId) : String := "docs/rules/" ++ id.name ++ ".md"

/-- The description of a rule. -/
def describe : RuleId → RuleMeta
  | .noThrowLiteral =>
    { description := "Disallow throwing literals as exceptions"
      ruleType := .problem
      fixable := true
      visits := [.throwing]
      messages := [
        ("object", "Expected an error object to be thrown."),
        ("undef", "Do not throw undefined."),
        ("literal", "Expected an error object to be thrown, not a literal.")] }
  | .noGenericError =>
    { description := "Disallow throwing generic Error instances"
      ruleType := .problem
      fixable := true
      visits := [.throwing]
      messages := [
        ("noGenericError", "Avoid throwing generic Error. Use a custom error class instead."),
        ("noGenericErrorWithSuggestion",
          "Avoid throwing generic Error. Consider using \x7b\x7bsuggestion\x7d\x7d instead.")] }
  | .requireCustomError =>
    { description := "Require custom error classes that extend Error"
      ruleType := .problem
      fixable := true
      visits := [.importDeclaration, .throwing, .classDeclaration]
      messages := [
        ("requireCustomError", "Use custom error classes instead of generic Error."),
        ("requireErrorSuffix", "Custom error class names should end with \"Error\"."),
        ("extendError", "Custom error classes should extend Error or another error class.")] }
  | .noLiteralErrorMessage =>
    { description := "Disallow creating errors with literal string messages"
      ruleType := .problem
      fixable := false
      visits := [.construction, .call]
      messages := [
        ("noLiteralMessage",
          "Avoid literal string message \"\x7b\x7bmessage\x7d\x7d\" in " ++
          "\x7b\x7berrorClass\x7d\x7d. Create a dedicated error class with a hardcoded message " ++
          "instead."),
        ("noTemplateLiteralMessage",
          "Avoid template literal message in \x7b\x7berrorClass\x7d\x7d. Create a dedicated " ++
          "error class with a hardcoded message instead.")] }
  | .requireHardcodedErrorMessage =>
    { description := "Require repeated error messages to be hardcoded in error class constructor"
      ruleType := .suggestion
      fixable := false
      visits := [.importDeclaration, .throwing]
      messages := [
        ("repeatedErrorMessage",
          "The error message \"\x7b\x7bmessage\x7d\x7d\" is used \x7b\x7bcount\x7d\x7d times " ++
          "with \x7b\x7berrorClass\x7d\x7d. Consider hardcoding this message in the error class " ++
          "constructor. Ensure you have tests covering this error scenario.")] }

end RuleId

/-- The template of a message. -/
def RuleMeta.message? (info : RuleMeta) (messageId : String) : Option String :=
  info.messages.lookup messageId

end ErrorLint
