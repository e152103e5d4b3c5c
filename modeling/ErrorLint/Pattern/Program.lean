/-
This file turns patterns into programs. A program is an array of steps that refer to
each other by their places, and its first step accepts. The steps of a pattern are
written from its end, so that the steps it goes on with are known; only the fork of a
loop is written first and completed when its body is there.
-/

import ErrorLint.Pattern.Expr

namespace ErrorLint.Pattern

open Unicode (CharSet)

/-- A step of a search. -/
inductive Step where
  | accept
  /-- Goes on over a character of the set. -/
  | take (chars : CharSet) (next : Nat)
  /-- Goes on where the condition holds. -/
  | look (condition : Look) (next : Nat)
  | fork (first second : Nat)
  deriving Repr, DecidableEq

/-- The steps of a pattern. -/
abbrev Steps := Array Step

namespace Steps

/-- Adds a step and gives its place. -/
def add (step : Step) (steps : Steps) : Nat × Steps := (steps.size, steps.push step)

/-- Adds steps over characters, which lead to `next`. -/
def addChars (chars : List Char) (next : Nat) (steps : Steps) : Nat × Steps :=
  chars.foldr (fun char (next, steps) => steps.add (.take (.single char) next)) (next, steps)

/-- Adds a body a number of times, one after the other. -/
def addTimes (body : Nat → Steps → Nat × Steps) : (count : Nat) → Nat → Steps → Nat × Steps
  | 0, next, steps => (next, steps)
  | count + 1, next, steps =>
    let (entry, steps) := body next steps
    addTimes body count entry steps

/-- Adds a body that may be passed a number of times. Every fork before it leads to `exit`
too. -/
def addOptional (body : Nat → Steps → Nat × Steps) (exit : Nat) :
    (count : Nat) → Nat → Steps → Nat × Steps
  | 0, next, steps => (next, steps)
  | count + 1, next, steps =>
    let (entry, steps) := body next steps
    let (fork, steps) := steps.add (.fork entry exit)
    addOptional body exit count fork steps

/-- Adds a loop. Its entry is the fork, or the body if that has to be passed once. -/
def addLoop (body : Nat → Steps → Nat × Steps) (atLeastOnce : Bool) (next : Nat)
    (steps : Steps) : Nat × Steps :=
  let (fork, steps) := steps.add (.fork next next)
  let (entry, steps) := body fork steps
  (if atLeastOnce then entry else fork, steps.setIfInBounds fork (.fork entry next))

end Steps

/-- Adds the steps of a pattern that lead to `next`, and gives the place to enter them. -/
def Expr.addTo : Expr → (next : Nat) → Steps → Nat × Steps
  | .empty, next, steps => (next, steps)
  | .literal chars, next, steps => steps.addChars chars next
  | .set chars, next, steps => steps.add (.take chars next)
  | .look condition, next, steps => steps.add (.look condition next)
  | .group _ body, next, steps => body.addTo next steps
  | .sequence first rest, next, steps =>
    let (entry, steps) := rest.addTo next steps
    first.addTo entry steps
  | .choice first rest, next, steps =>
    let (left, steps) := first.addTo next steps
    let (right, steps) := rest.addTo next steps
    steps.add (.fork left right)
  | .repetition body least none _, next, steps =>
    let (entry, steps) := steps.addLoop body.addTo (0 < least) next
    Steps.addTimes body.addTo (least - 1) entry steps
  | .repetition body least (some most) _, next, steps =>
    let (entry, steps) := Steps.addOptional body.addTo next (most - least) next steps
    Steps.addTimes body.addTo least entry steps

/-- The steps of a search, and where it starts. -/
structure Program where
  steps : Steps
  start : Nat
  deriving Repr, DecidableEq

/-- The program of a pattern. -/
def Expr.program (expr : Expr) : Program :=
  let (start, steps) := expr.addTo 0 #[.accept]
  ⟨steps, start⟩

end ErrorLint.Pattern
