/-
This file holds the causes for which a configuration or a source is refused, with the
text and the stable code of each.
-/

import ErrorLint.Config.Mismatch

namespace ErrorLint

/-- Why a configuration or the options of a rule are refused. -/
inductive ConfigError where
  | fileNotFound (path : String)
  | malformed (path message : String)
  | invalid (field message : String)
  | unknownRule (id : String)
  | invalidOptions (rule message : String)
  | invalidPattern (rule pattern message : String)
  deriving Repr, DecidableEq

namespace ConfigError

def message : ConfigError → String
  | fileNotFound path => "Config file not found: " ++ path
  | malformed path message => "Failed to parse config " ++ path ++ ": " ++ message
  | invalid field message => "Invalid value for " ++ field ++ ": " ++ message
  | unknownRule id => "Unknown rule: " ++ id
  | invalidOptions rule message => "Invalid options for rule " ++ rule ++ ": " ++ message
  | invalidPattern rule pattern message =>
    "Invalid pattern " ++ Text.quoted pattern ++ " for rule " ++ rule ++ ": " ++ message

def code : ConfigError → String
  | unknownRule _ => "UNKNOWN_RULE"
  | invalidOptions _ _ => "INVALID_RULE_OPTIONS"
  | invalidPattern _ _ _ => "INVALID_RULE_OPTIONS"
  | _ => "CONFIG_ERROR"

end ConfigError

/-- Why there is no tree for a source. -/
inductive SourceError where
  | grammarUnavailable (dialect message : String)
  | noTree (path : String)
  | unreadable (path message : String)
  deriving Repr, DecidableEq

namespace SourceError

def message : SourceError → String
  | grammarUnavailable dialect message =>
    "Failed to load " ++ dialect ++ " grammar: " ++ message
  | noTree path => "Parser produced no tree for " ++ path
  | unreadable path message => "Failed to read " ++ path ++ ": " ++ message

def code : SourceError → String
  | _ => "PARSE_ERROR"

end SourceError

/-- Why a source was not checked. -/
inductive LintError where
  | config (cause : ConfigError)
  | source (cause : SourceError)
  deriving Repr, DecidableEq

namespace LintError

def message : LintError → String
  | config cause => "Configuration error: " ++ cause.message
  | source cause => "Parse error: " ++ cause.message

def code : LintError → String
  | config cause => cause.code
  | source cause => cause.code

end LintError

end ErrorLint
