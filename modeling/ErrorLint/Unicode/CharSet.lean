/-
This file holds sets of characters. A set is the list of its ranges of code points in
ascending order, with a gap between any two of them, so a set has one list only and
the operations on sets are walks along two lists.

The tables of the Unicode properties are read from lines of text: the bounds of a range
in hexadecimal with a hyphen between them, or one number for a single code point, and
a space between two ranges.
-/

import ErrorLint.StringLiteral
import ErrorLint.Text.Search

namespace ErrorLint.Unicode

/-- The code points from `first` to `last`. -/
structure Range where
  first : Nat
  last : Nat
  deriving Repr, DecidableEq

/-- A set of characters. -/
structure CharSet where
  ranges : List Range
  deriving Repr, DecidableEq

/-- The last code point. -/
def lastCode : Nat := 0x10FFFF

/-- The code point of the character after the given one. The surrogates are passed over. -/
def codeAfter (code : Nat) : Nat := if code = 0xD7FF then 0xE000 else code + 1

/-- The code point of the character before the given one. -/
def codeBefore (code : Nat) : Nat := if code = 0xE000 then 0xD7FF else code - 1

namespace CharSet

/-- The set without characters. -/
def none : CharSet := ⟨[]⟩

/-- All characters. -/
def all : CharSet := ⟨[⟨0, lastCode⟩]⟩

/-- The characters between two code points. -/
def range (first last : Nat) : CharSet := ⟨[⟨first, last⟩]⟩

/-- The set of one character. -/
def single (char : Char) : CharSet := range char.toNat char.toNat

/-- Whether a code point is in one of the ranges, which ascend. -/
def holdsIn (code : Nat) : List Range → Bool
  | [] => false
  | range :: rest => range.first ≤ code && (code ≤ range.last || holdsIn code rest)

/-- Whether a code point is in the set. -/
def holds (set : CharSet) (code : Nat) : Bool := holdsIn code set.ranges

/-! ### Unions -/

/-- Joins a range with those after it that overlap it or follow without a gap. -/
def coalesceFrom (current : Range) : List Range → List Range
  | [] => [current]
  | next :: rest =>
    if next.first ≤ current.last + 1 then
      coalesceFrom ⟨current.first, max current.last next.last⟩ rest
    else
      current :: coalesceFrom next rest

/-- Joins the ranges that leave no gap between them. -/
def coalesce : List Range → List Range
  | [] => []
  | range :: rest => coalesceFrom range rest

/-- Whether a range starts no later than another. -/
def startsBefore (left right : Range) : Bool := left.first ≤ right.first

/-- The set of ranges that come in any order. -/
def ofRanges (ranges : List Range) : CharSet := ⟨coalesce (ranges.mergeSort startsBefore)⟩

def union (left right : CharSet) : CharSet :=
  ⟨coalesce (left.ranges.merge right.ranges startsBefore)⟩

/-- The union of several sets. -/
def unions (sets : List CharSet) : CharSet := sets.foldl union none

/-! ### Complements, intersections and differences -/

/-- The range between two code points that come in any order. The gap between the last
character before the surrogates and the first after them has its ends exchanged. -/
def spanning (one other : Nat) : Range := ⟨min one other, max one other⟩

/-- The gaps between ranges, from the end of the range before them on. -/
def gapsAfter (last : Nat) : List Range → List Range
  | [] => if last < lastCode then [⟨codeAfter last, lastCode⟩] else []
  | next :: rest =>
    spanning (codeAfter last) (codeBefore next.first) :: gapsAfter next.last rest

def complement (set : CharSet) : CharSet :=
  match set.ranges with
  | [] => all
  | first :: rest =>
    ⟨(if first.first = 0 then [] else [⟨0, codeBefore first.first⟩]) ++ gapsAfter first.last rest⟩

/-- The complement of a set, if that is wanted. -/
def negateIf (negated : Bool) (set : CharSet) : CharSet :=
  if negated then set.complement else set

/-- The ranges that two lists have in common. -/
def common : List Range → List Range → List Range
  | [], _ => []
  | _, [] => []
  | left :: lefts, right :: rights =>
    let first := max left.first right.first
    let last := min left.last right.last
    let rest :=
      if left.last < right.last then common lefts (right :: rights)
      else common (left :: lefts) rights
    if first ≤ last then ⟨first, last⟩ :: rest else rest
termination_by lefts rights => lefts.length + rights.length

def intersection (left right : CharSet) : CharSet := ⟨common left.ranges right.ranges⟩

/-- The ranges of the first list without those of the second. -/
def without : List Range → List Range → List Range
  | [], _ => []
  | lefts, [] => lefts
  | left :: lefts, right :: rights =>
    if right.last < left.first then without (left :: lefts) rights
    else if left.last < right.first then left :: without lefts (right :: rights)
    else
      let rest :=
        if right.last < left.last then without (⟨codeAfter right.last, left.last⟩ :: lefts) rights
        else without lefts (right :: rights)
      if left.first < right.first then ⟨left.first, codeBefore right.first⟩ :: rest else rest
termination_by lefts rights => lefts.length + rights.length

def difference (left right : CharSet) : CharSet := ⟨without left.ranges right.ranges⟩

/-- The characters that are in exactly one of two sets. -/
def symmetricDifference (left right : CharSet) : CharSet :=
  (left.union right).difference (left.intersection right)

/-! ### Tables -/

/-- Reads a number in hexadecimal. -/
def readHex (digits : List Char) : Nat :=
  digits.foldl (fun value digit => value * 16 + (StringLiteral.hexDigit? digit).getD 0) 0

/-- Reads one range. -/
def readRange (text : List Char) : Range :=
  match Text.splitFirst? ['-'] text with
  | some (first, last) => ⟨readHex first, readHex last⟩
  | Option.none => ⟨readHex text, readHex text⟩

/-- Reads the ranges of a line. -/
def readLine (line : String) : List Range := (Text.pieces ' ' line.toList).map readRange

/-- Reads a table, whose ranges ascend. -/
def ofLines (lines : List String) : CharSet := ⟨lines.flatMap readLine⟩

end CharSet

end ErrorLint.Unicode
