/-
This file holds patterns as expressions. They are kept in a simple form: the functions
that put expressions together flatten sequences and choices, join the literals that
stand next to each other, turn a choice between characters into a set, take out what
all branches of a choice start with, and drop repetitions that change nothing. The
form does not change what a pattern matches, but it is the form whose size is measured.
-/

import ErrorLint.Pattern.Shorthand

namespace ErrorLint.Pattern

open Unicode (CharSet)

/-- Which characters count as those of words. -/
inductive WordKind where
  | unicode
  | ascii
  deriving Repr, DecidableEq

def WordKind.set : WordKind → CharSet
  | unicode => words
  | ascii => asciiWords

/-- A condition on a position between two characters. -/
inductive Look where
  | textStart
  | textEnd
  | lineStart
  | lineEnd
  /-- The start of a line where a carriage return ends lines too. -/
  | anyLineStart
  /-- The end of a line where a carriage return ends lines too. -/
  | anyLineEnd
  | boundary (words : WordKind)
  | notBoundary (words : WordKind)
  | wordStart (words : WordKind)
  | wordEnd (words : WordKind)
  /-- No word character stands before the position. -/
  | notAfterWord (words : WordKind)
  /-- No word character stands after the position. -/
  | notBeforeWord (words : WordKind)
  deriving Repr, DecidableEq

/-- A pattern. The rest of a sequence or of a choice may be one in turn, its first part
may not. -/
inductive Expr where
  | empty
  | literal (chars : List Char)
  /-- One character of the set. -/
  | set (chars : CharSet)
  | look (condition : Look)
  /-- A group that is counted, with its number. -/
  | group (index : Nat) (body : Expr)
  | sequence (first rest : Expr)
  | choice (first rest : Expr)
  /-- At least `least` and at most `most` times the body, or any number of times from
  `least` on; as often as possible or, if it is not greedy, as seldom as possible. -/
  | repetition (body : Expr) (least : Nat) (most : Option Nat) (greedy : Bool)
  deriving Repr, DecidableEq

namespace Expr

/-! ### What can be said of an expression without a text -/

/-- The pattern that matches nothing. -/
def fail : Expr := set .none

/-- Whether all matches are empty, of which there must be a finite number of kinds. -/
def isZeroWidth : Expr → Bool
  | empty => true
  | literal _ => false
  | set _ => false
  | look _ => true
  | group _ body => body.isZeroWidth
  | sequence first rest => first.isZeroWidth && rest.isZeroWidth
  | choice first rest => first.isZeroWidth && rest.isZeroWidth
  | repetition body _ most _ => most.isSome && body.isZeroWidth

/-- The least number of characters in a match, if every part can match something. -/
def shortest? : Expr → Option Nat
  | empty => some 0
  | literal chars => some chars.length
  | set chars => if chars.ranges.isEmpty then none else some 1
  | look _ => some 0
  | group _ body => body.shortest?
  | sequence first rest => do return (← first.shortest?) + (← rest.shortest?)
  | choice first rest => do return min (← first.shortest?) (← rest.shortest?)
  | repetition body least _ _ => body.shortest?.map (· * least)

/-- Whether matches start at the start of the text only. -/
def startsText : Expr → Bool
  | look condition => condition = .textStart
  | group _ body => body.startsText
  | sequence first rest => first.startsText || (first.isZeroWidth && rest.startsText)
  | choice first rest => first.startsText && rest.startsText
  | repetition body least _ _ => 0 < least && body.startsText
  | _ => false

/-- Whether matches end at the end of the text only. -/
def endsText : Expr → Bool
  | look condition => condition = .textEnd
  | group _ body => body.endsText
  | sequence first rest => rest.endsText || (rest.isZeroWidth && first.endsText)
  | choice first rest => first.endsText && rest.endsText
  | repetition body least _ _ => 0 < least && body.endsText
  | _ => false

/-- The number of parts in all. -/
def size : Expr → Nat
  | group _ body => body.size + 1
  | sequence first rest => first.size + rest.size + 1
  | choice first rest => first.size + rest.size + 1
  | repetition body _ _ _ => body.size + 1
  | _ => 1

/-! ### Putting expressions together -/

/-- One character of a set. A set of one character is a literal. -/
def ofSet (chars : CharSet) : Expr :=
  match chars.ranges with
  | [range] => if range.first = range.last then literal [Char.ofNat range.first] else set chars
  | _ => set chars

/-- The parts of a sequence. -/
def parts : Expr → List Expr
  | empty => []
  | sequence first rest => first :: rest.parts
  | expr => [expr]

/-- Joins literals that follow each other. -/
def joinLiterals : List Expr → List Expr
  | [] => []
  | literal chars :: rest =>
    match joinLiterals rest with
    | literal more :: others => literal (chars ++ more) :: others
    | others => literal chars :: others
  | expr :: rest => expr :: joinLiterals rest

/-- The sequence of its parts. -/
def ofParts : List Expr → Expr
  | [] => empty
  | [expr] => expr
  | expr :: rest => sequence expr (ofParts rest)

/-- One after the other. -/
def concat (exprs : List Expr) : Expr := ofParts (joinLiterals (exprs.flatMap parts))

/-- The branches of a choice. -/
def branches : Expr → List Expr
  | choice first rest => first :: rest.branches
  | expr => [expr]

/-- The choice between its branches. -/
def ofBranches : List Expr → Expr
  | [] => fail
  | [expr] => expr
  | expr :: rest => choice expr (ofBranches rest)

/-- The character of a literal of one character. -/
def character? : Expr → Option Char
  | literal [char] => some char
  | _ => none

/-- The set of an expression that is one. -/
def set? : Expr → Option CharSet
  | set chars => some chars
  | _ => none

/-- The set of the characters between which a choice is made, if that is all it does. -/
def choiceSet? (branches : List Expr) : Option CharSet :=
  ((branches.mapM character?).map fun chars => .unions (chars.map .single)).or
    ((branches.mapM set?).map .unions)

/-- What two lists start with. -/
def sharedStart : List Expr → List Expr → List Expr
  | left :: lefts, right :: rights =>
    if left = right then left :: sharedStart lefts rights else []
  | _, _ => []

/-- The parts that all branches start with, if all of them are sequences. -/
def sharedParts : List Expr → List Expr
  | [] => []
  | first :: rest =>
    if (first :: rest).all fun branch => 1 < branch.parts.length then
      rest.foldl (fun shared branch => sharedStart shared branch.parts) first.parts
    else
      []

/-- One or the other; `fuel` bounds how often a common start is taken out. -/
def alternate : (fuel : Nat) → List Expr → Expr
  | 0, exprs => ofBranches exprs
  | fuel + 1, exprs =>
    match exprs.flatMap branches with
    | [expr] => expr
    | flat =>
      match choiceSet? flat with
      | some chars => ofSet chars
      | none =>
        match sharedParts flat with
        | [] => ofBranches flat
        | shared =>
          let rests := flat.map fun branch => concat (branch.parts.drop shared.length)
          concat (shared ++ [alternate fuel rests])

/-- One or the other. -/
def alternation (exprs : List Expr) : Expr :=
  alternate (exprs.foldl (fun total expr => total + expr.size) 1) exprs

/-- A number of times the body. A body without width adds nothing after the first time. -/
def repeated (body : Expr) (least : Nat) (most : Option Nat) (greedy : Bool) : Expr :=
  let (least, most) :=
    if body.isZeroWidth then (min least 1, some (min (most.getD 1) 1)) else (least, most)
  if most = some 0 then empty
  else if least = 1 && most = some 1 then body
  else repetition body least most greedy

end Expr

end ErrorLint.Pattern
