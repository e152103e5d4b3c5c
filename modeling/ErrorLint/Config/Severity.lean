/-
This file holds how seriously the findings of a rule are taken, and the presets that
switch several rules on at once.
-/

import ErrorLint.Text.Blank

namespace ErrorLint

/-- How the findings of a rule are treated. -/
inductive Severity where
  | off
  | warn
  | error
  deriving Repr, DecidableEq, Ord

namespace Severity

def all : List Severity := [.off, .warn, .error]

def name : Severity → String
  | .off => "off"
  | .warn => "warn"
  | .error => "error"

/-- Whether a rule of this severity runs at all. -/
def isEnabled (severity : Severity) : Bool := severity ≠ .off

end Severity

/-- A selection of rules. -/
inductive Preset where
  | recommended
  | strict
  deriving Repr, DecidableEq

namespace Preset

def all : List Preset := [.recommended, .strict]

def name : Preset → String
  | .recommended => "recommended"
  | .strict => "strict"

/-- The text in which presets are looked up: without blanks around it, and with the
capital letters of ASCII made small. -/
def normalize (text : String) : String :=
  String.ofList ((Text.trim text.toList).map Char.toLower)

/-- The preset of a name, or the name as it was looked up. -/
def ofText (text : String) : Except String Preset :=
  match all.find? (·.name = normalize text) with
  | some preset => .ok preset
  | none => .error (normalize text)

/-- What is said about a name that no preset has. -/
def unknownMessage (name : String) : String := "unknown preset '" ++ name ++ "'"

end Preset

end ErrorLint
