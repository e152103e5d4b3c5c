/-
This file searches for patterns. A search walks once through the text and knows at
every position the steps of the program that can be reached there; a new attempt
starts at every position. No step is followed twice at one position, so a search ends
even where a program loops without passing a character.
-/

import ErrorLint.Pattern.Engine
import ErrorLint.Pattern.Program
import ErrorLint.Pattern.Reader

namespace ErrorLint

namespace Pattern

open Unicode (CharSet)

/-- Whether a character that may be missing is one of words. -/
def WordKind.holdsAt (kind : WordKind) (char : Option Char) : Bool :=
  char.any fun char => kind.set.holds char.toNat

/-- Whether a condition holds between two characters. -/
def Look.holds (look : Look) (before after : Option Char) : Bool :=
  match look with
  | .textStart => before.isNone
  | .textEnd => after.isNone
  | .lineStart => before.isNone || before = some '\n'
  | .lineEnd => after.isNone || after = some '\n'
  | .anyLineStart =>
    before.isNone || before = some '\n' || (before = some '\r' && after ≠ some '\n')
  | .anyLineEnd =>
    after.isNone || after = some '\r' || (after = some '\n' && before ≠ some '\r')
  | .boundary words => words.holdsAt before != words.holdsAt after
  | .notBoundary words => words.holdsAt before == words.holdsAt after
  | .wordStart words => !words.holdsAt before && words.holdsAt after
  | .wordEnd words => words.holdsAt before && !words.holdsAt after
  | .notAfterWord words => !words.holdsAt before
  | .notBeforeWord words => !words.holdsAt after

/-- What is known at a position: the steps that were followed, marked with the number of
the position, the steps that wait for a character, and whether a match was found. -/
structure Front where
  marks : Array Nat
  waiting : List Nat
  found : Bool

/-- Follows steps as far as they lead without passing a character. Every step is followed
once, so `fuel` need not be larger than three times their number. -/
def Program.follow (program : Program) (position : Nat) (before after : Option Char) :
    (fuel : Nat) → List Nat → Front → Front
  | 0, _, front => front
  | _, [], front => front
  | fuel + 1, place :: rest, front =>
    if front.marks[place]? = some position then
      program.follow position before after fuel rest front
    else
      let front := { front with marks := front.marks.setIfInBounds place position }
      match program.steps[place]? with
      | some .accept => { front with found := true }
      | some (.take _ _) =>
        program.follow position before after fuel rest
          { front with waiting := place :: front.waiting }
      | some (.look condition next) =>
        let rest := if condition.holds before after then next :: rest else rest
        program.follow position before after fuel rest front
      | some (.fork first second) =>
        program.follow position before after fuel (first :: second :: rest) front
      | none => program.follow position before after fuel rest front

/-- Where a step that waits leads over a character. -/
def Program.pass? (program : Program) (char : Char) (place : Nat) : Option Nat :=
  match program.steps[place]? with
  | some (.take chars next) => if chars.holds char.toNat then some next else none
  | _ => none

/-- Searches the rest of a text from a position on. Positions are counted from one. -/
def Program.search (program : Program) (position : Nat) (before : Option Char)
    (pending : List Nat) (marks : Array Nat) (text : List Char) : Bool :=
  let front := program.follow position before text.head? (3 * program.steps.size + 3)
    (pending ++ [program.start]) ⟨marks, [], false⟩
  front.found ||
    match text with
    | [] => false
    | char :: rest =>
      program.search (position + 1) (some char) (front.waiting.filterMap (program.pass? char))
        front.marks rest

end Pattern

/-- A pattern that was read. -/
structure Pattern where
  program : Pattern.Program
  deriving Repr, DecidableEq

namespace Pattern

/-- The pattern of a text, if it is one. -/
def ofText? (text : String) : Option Pattern :=
  (read? text.toList).map fun expr => ⟨expr.program⟩

/-- Whether a pattern occurs somewhere in the text. -/
def occursIn (pattern : Pattern) (text : String) : Bool :=
  let program := pattern.program
  program.search 1 none [] (Array.replicate program.steps.size 0) text.toList

/-- The engine whose patterns are regular expressions, which are searched for in the text. -/
def engine : PatternEngine where
  compile text :=
    match ofText? text with
    | some pattern => .ok pattern.occursIn
    | none => .error "not a regular expression"

end Pattern

end ErrorLint
