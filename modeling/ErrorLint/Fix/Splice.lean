/-
This file applies fixes to a text. Fixes are taken in the order of their spans; a
fix that starts at or before the end of the one applied last is skipped, and so is
one whose span does not fall on boundaries of the text. A skipped fix has its
chance in the next pass over the changed text.
-/

import ErrorLint.Text.Offset
import ErrorLint.Text.Span

namespace ErrorLint

/-- A proposal to replace the text of a span. -/
structure Fix where
  span : Span
  replacement : String
  deriving Repr, DecidableEq

/-- Fixes are ordered by the start and then by the end of their spans. -/
def Fix.le (left right : Fix) : Bool :=
  left.span.start < right.span.start ||
    (left.span.start = right.span.start && left.span.stop ≤ right.span.stop)

/-- Whether the span of a fix falls on boundaries of the text. -/
def Fix.isInBounds (fix : Fix) (text : List Char) : Bool :=
  Text.isBoundary text fix.span.start && Text.isBoundary text fix.span.stop

/-- The outcome of applying fixes once. -/
structure Splice where
  output : String
  applied : Nat
  skipped : Nat
  deriving Repr, DecidableEq

/-- Whether any fix was applied. -/
def Splice.changed (splice : Splice) : Bool := 0 < splice.applied

namespace Splice

/-- How far a pass has come: the text written so far, the offset up to which the
source is used, the end of the fix applied last, and the two counts. -/
structure Progress where
  written : List Char
  cursor : Nat
  lastStop : Option Nat
  applied : Nat
  skipped : Nat

/-- The state before the first fix. -/
def Progress.initial : Progress := ⟨[], 0, none, 0, 0⟩

/-- Whether a fix starts at or before the end of the one applied last. -/
def Progress.conflicts (progress : Progress) (fix : Fix) : Bool :=
  progress.lastStop.any (fix.span.start ≤ ·)

/-- Applies or skips one fix. -/
def Progress.step (text : List Char) (progress : Progress) (fix : Fix) : Progress :=
  if progress.conflicts fix || !fix.isInBounds text then
    { progress with skipped := progress.skipped + 1 }
  else
    { written :=
        progress.written ++ (Text.slice? text progress.cursor fix.span.start).getD [] ++
          fix.replacement.toList
      cursor := fix.span.stop
      lastStop := some fix.span.stop
      applied := progress.applied + 1
      skipped := progress.skipped }

/-- The state after all fixes. -/
def run (text : List Char) (fixes : List Fix) : Progress :=
  (fixes.mergeSort Fix.le).foldl (Progress.step text) Progress.initial

/-- Applies every fix that conflicts with no earlier one. -/
def ofFixes (source : String) (fixes : List Fix) : Splice :=
  let text := source.toList
  let progress := run text fixes
  let rest := (Text.slice? text progress.cursor (Text.byteLength text)).getD []
  ⟨String.ofList (progress.written ++ rest), progress.applied, progress.skipped⟩

end Splice

end ErrorLint
