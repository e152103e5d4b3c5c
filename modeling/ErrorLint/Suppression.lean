/-
This file reads the comments that hide findings. A directive is looked for line by
line in the plain text: it stands after a comment opener, names the rules that it
hides, or none for all of them, and works on its own line or on the next one. What
follows a double hyphen is a description.
-/

import ErrorLint.Text.Blank
import ErrorLint.Text.Lines
import ErrorLint.Text.Search

namespace ErrorLint

/-- The line on which a directive works. -/
inductive DirectiveTarget where
  | sameLine
  | nextLine
  deriving Repr, DecidableEq

/-- A word that makes a comment a directive. -/
structure Marker where
  word : String
  target : DirectiveTarget
  deriving Repr, DecidableEq

/-- The words that make a comment a directive. The first of them that occurs on a
line decides how the line is read. -/
def markers : List Marker := [
  ⟨"throwlint-disable-next-line", .nextLine⟩,
  ⟨"eslint-disable-next-line", .nextLine⟩,
  ⟨"throwlint-disable-line", .sameLine⟩,
  ⟨"eslint-disable-line", .sameLine⟩]

/-- A directive: the line of its comment, the line on which it works, and the rules
that it names. -/
structure Directive where
  line : Nat
  appliesTo : Nat
  ruleIds : List String
  deriving Repr, DecidableEq

namespace Directive

/-- The first marker that occurs on the line, with what stands around it. -/
def locate (line : List Char) : List Marker → Option (Marker × List Char × List Char)
  | [] => none
  | marker :: rest =>
    match Text.splitFirst? marker.word.toList line with
    | some (before, after) => some (marker, before, after)
    | none => locate line rest

/-- Whether a comment is opened somewhere in the text. -/
def opensComment (before : List Char) : Bool :=
  Text.contains ['/', '/'] before || Text.contains ['/', '*'] before

/-- Whether a marker may end here: the next character is not part of its word. -/
def endsWord : List Char → Bool
  | [] => true
  | char :: _ => Text.isBlank char || char = '*'

/-- The rule ids listed after a marker, up to the end of the comment or a
description. -/
def listed (after : List Char) : List String :=
  let list := Text.upTo ['-', '-'] (Text.upTo ['*', '/'] after)
  (((Text.pieces ',' list).map Text.trim).filter (!·.isEmpty)).map String.ofList

/-- The line on which a directive of the given line works. -/
def targetLine (target : DirectiveTarget) (line : Nat) : Nat :=
  match target with
  | .sameLine => line
  | .nextLine => line + 1

/-- Reads the directive of one line. -/
def ofLine? (number : Nat) (line : List Char) : Option Directive := do
  let (marker, before, after) ← locate line markers
  guard (opensComment before && endsWord after)
  return ⟨number, targetLine marker.target number, listed after⟩

/-- The directives of a list of lines that starts with the given line number. -/
def ofLines (number : Nat) : List (List Char) → List Directive
  | [] => []
  | line :: rest => (ofLine? number line).toList ++ ofLines (number + 1) rest

/-- The directives of a source text, in order. -/
def ofSource (source : String) : List Directive :=
  ofLines 1 (Text.lines source.toList)

/-- Whether a listed id means the rule: it is the id itself, or ends in it after
the last slash. -/
def names (listed ruleId : String) : Bool :=
  listed = ruleId || Text.afterLast? '/' listed.toList = some ruleId.toList

/-- Whether a directive hides findings of the rule. -/
def covers (directive : Directive) (ruleId : String) : Bool :=
  directive.ruleIds.isEmpty || directive.ruleIds.any (names · ruleId)

end Directive

/-- The directives of one source text. -/
structure Suppressions where
  directives : List Directive
  deriving Repr, DecidableEq

namespace Suppressions

/-- Collects the directives of a source text. -/
def scan (source : String) : Suppressions := ⟨Directive.ofSource source⟩

def isEmpty (suppressions : Suppressions) : Bool := suppressions.directives.isEmpty

/-- Whether a finding of the rule on the line is hidden. -/
def hides (suppressions : Suppressions) (line : Nat) (ruleId : String) : Bool :=
  suppressions.directives.any fun directive =>
    directive.appliesTo = line && directive.covers ruleId

end Suppressions

end ErrorLint
