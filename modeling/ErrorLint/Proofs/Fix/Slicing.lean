/-
This file proves that a pass takes only slices that exist. It takes two kinds of them from the
source: the text from the end of the fix applied last to the start of the next one, and at the
end the rest. The offsets of fixes come from outside. They may lie behind the text or inside
of a character, and a span may end before it starts; after such a fix the pass goes back and
writes a part of the source again.

What keeps the slices in order is not how the fixes are sorted. At all times the pass stands at
the end of the fix applied last, and whatever starts at or before this end is skipped, so the
next slice goes forward even where the pass has gone back. That both its ends are boundaries
was checked when the fixes were applied.

A slice that does not exist would be read as an empty one, and nobody would see it. So the
pass is given a second time, in a form that stops at such a slice. The two agree on all fixes.
-/

import ErrorLint.Proofs.Fix.Selection

namespace ErrorLint

namespace Splice

/-! ### A pass that stops -/

/-- Applies or skips one fix, and stops if the text in front of the fix cannot be taken. -/
def Progress.step? (text : List Char) (progress : Progress) (fix : Fix) : Option Progress :=
  if progress.conflicts fix || !fix.isInBounds text then
    some { progress with skipped := progress.skipped + 1 }
  else do
    let kept ← Text.slice? text progress.cursor fix.span.start
    return {
      written := progress.written ++ kept ++ fix.replacement.toList
      cursor := fix.span.stop
      lastStop := some fix.span.stop
      applied := progress.applied + 1
      skipped := progress.skipped }

/-- Applies every fix that conflicts with no earlier one, and stops at the first slice that
does not exist. -/
def ofFixes? (source : String) (fixes : List Fix) : Option Splice := do
  let text := source.toList
  let progress ← (fixes.mergeSort Fix.le).foldlM (Progress.step? text) Progress.initial
  let rest ← Text.slice? text progress.cursor (Text.byteLength text)
  return ⟨String.ofList (progress.written ++ rest), progress.applied, progress.skipped⟩

/-! ### Where a pass stands -/

variable {text : List Char} {progress : Progress} {fix : Fix}

/-- A pass stands on a boundary: at the end of the fix applied last, or at the start of the
text. -/
structure Progress.Anchored (text : List Char) (progress : Progress) : Prop where
  cursor_eq : progress.cursor = progress.lastStop.getD 0
  boundary : Text.isBoundary text progress.cursor = true

namespace Progress

theorem isTaken_eq_true_iff :
    fix.isTaken text progress.lastStop = true ↔
      progress.conflicts fix = false ∧ fix.isInBounds text = true := by
  rw [Fix.isTaken, Bool.and_eq_true, and_comm]
  refine and_congr_left fun _ => ?_
  rw [conflicts]
  cases progress.lastStop with
  | none => simp
  | some stop => simp

theorem anchored_initial (text : List Char) : Progress.initial.Anchored text where
  cursor_eq := rfl
  boundary := Text.isBoundary_zero text

theorem Anchored.step (anchored : progress.Anchored text) (fix : Fix) :
    (progress.step text fix).Anchored text := by
  by_cases isTaken : fix.isTaken text progress.lastStop = true
  · rw [step_of_taken isTaken]
    have inBounds := (isTaken_eq_true_iff.mp isTaken).2
    rw [Fix.isInBounds, Bool.and_eq_true] at inBounds
    exact ⟨rfl, inBounds.2⟩
  · rw [Bool.not_eq_true] at isTaken
    rw [step_of_not_taken isTaken]
    exact ⟨anchored.cursor_eq, anchored.boundary⟩

theorem Anchored.foldl_step (anchored : progress.Anchored text) (fixes : List Fix) :
    (fixes.foldl (Progress.step text) progress).Anchored text := by
  induction fixes generalizing progress with
  | nil => exact anchored
  | cons fix rest inductionHypothesis => exact inductionHypothesis (anchored.step fix)

/-- The text in front of a fix that is applied can be taken. -/
theorem Anchored.valid_front (anchored : progress.Anchored text)
    (free : progress.conflicts fix = false) (inBounds : fix.isInBounds text = true) :
    (Span.mk progress.cursor fix.span.start).Valid text := by
  rw [Fix.isInBounds, Bool.and_eq_true] at inBounds
  refine ⟨?_, anchored.boundary, inBounds.1⟩
  show progress.cursor ≤ fix.span.start
  rw [anchored.cursor_eq]
  rw [conflicts] at free
  cases last : progress.lastStop with
  | none => exact Nat.zero_le _
  | some stop =>
    rw [last, Option.any_some, decide_eq_false_iff_not, Nat.not_le] at free
    exact Nat.le_of_lt free

/-- The rest of the text can be taken. -/
theorem Anchored.valid_rest (anchored : progress.Anchored text) :
    (Span.mk progress.cursor (Text.byteLength text)).Valid text where
  ordered := Text.le_byteLength_of_isBoundary anchored.boundary
  startBoundary := anchored.boundary
  stopBoundary := Text.isBoundary_byteLength text

/-! ### A pass never stops -/

theorem Anchored.step?_eq (anchored : progress.Anchored text) (fix : Fix) :
    progress.step? text fix = some (progress.step text fix) := by
  rw [Progress.step?, Progress.step]
  by_cases skipped : (progress.conflicts fix || !fix.isInBounds text) = true
  · rw [if_pos skipped, if_pos skipped]
  · rw [if_neg skipped, if_neg skipped]
    rw [Bool.not_eq_true, Bool.or_eq_false_iff, Bool.not_eq_false'] at skipped
    rw [Text.slice?_of_valid (anchored.valid_front skipped.1 skipped.2)]
    rfl

theorem Anchored.foldlM_step?_eq (anchored : progress.Anchored text) (fixes : List Fix) :
    fixes.foldlM (Progress.step? text) progress =
      some (fixes.foldl (Progress.step text) progress) := by
  induction fixes generalizing progress with
  | nil => rfl
  | cons fix rest inductionHypothesis =>
    rw [List.foldlM_cons, anchored.step?_eq fix]
    exact inductionHypothesis (anchored.step fix)

end Progress

theorem anchored_run (text : List Char) (fixes : List Fix) : (run text fixes).Anchored text :=
  (Progress.anchored_initial text).foldl_step (fixes.mergeSort Fix.le)

theorem ofFixes?_eq (source : String) (fixes : List Fix) :
    ofFixes? source fixes = some (ofFixes source fixes) := by
  have passed := (Progress.anchored_initial source.toList).foldlM_step?_eq
    (fixes.mergeSort Fix.le)
  have rest := Text.slice?_of_valid (anchored_run source.toList fixes).valid_rest
  rw [run] at rest
  simp only [ofFixes?, passed, rest, ofFixes, run, Option.bind_eq_bind, Option.bind_some]
  rfl

end Splice

/-! ### Applying the fixes of findings -/

/-- Whatever the spans of the fixes are, every slice of a pass can be taken: whenever a fix is
applied, the text in front of it is in order, inside of the source and on boundaries, and so is
the rest after the last fix. The pass that stops at a slice that does not exist gets to the end
and has the same outcome. -/
theorem Linter.applyFixes_slices_in_range (source : String) (diagnostics : List Diagnostic) :
    let text := source.toList
    let fixes := diagnostics.filterMap (·.fix)
    let sorted := fixes.mergeSort Fix.le
    let after : List Fix → Splice.Progress :=
      fun done => done.foldl (Splice.Progress.step text) Splice.Progress.initial
    (∀ done fix left, sorted = done ++ fix :: left →
        (after done).conflicts fix = false → fix.isInBounds text = true →
          (Span.mk (after done).cursor fix.span.start).Valid text ∧
            fix.span.start ≤ source.utf8ByteSize) ∧
      (Span.mk (after sorted).cursor source.utf8ByteSize).Valid text ∧
      Splice.ofFixes? source fixes = some (Linter.applyFixes source diagnostics) := by
  intro text fixes sorted after
  have anchored : ∀ done, (after done).Anchored text :=
    (Splice.Progress.anchored_initial text).foldl_step
  have whole : Text.byteLength text = source.utf8ByteSize :=
    Text.byteLength_eq_utf8ByteSize source
  refine ⟨fun done fix left _ free inBounds => ?_, ?_, Splice.ofFixes?_eq source fixes⟩
  · have valid := (anchored done).valid_front free inBounds
    exact ⟨valid, whole ▸ Text.le_byteLength_of_isBoundary valid.stopBoundary⟩
  · rw [← whole]
    exact (anchored sorted).valid_rest

/-- Of five fixes the second one has a span that ends before it starts. It takes the pass back,
and a part of the source is written twice. The first one ends inside of a character, the fourth
one touches the third one, and the last one lies far behind the text. -/
theorem Linter.applyFixes_slices_in_range_of_reversed :
    let finding : Nat × Nat × String → Diagnostic := fun (start, stop, replacement) =>
      { rule := .noThrowLiteral, severity := .error, messageId := "literal", message := ""
        data := MessageData.empty, place := default
        fix := some ⟨⟨start, stop⟩, replacement⟩ }
    let diagnostics :=
      [(0, 2, "V"), (4, 1, "X"), (4, 5, "Y"), (5, 5, "Z"),
        (0xFFFFFFFFFFFFFFFF, 0xFFFFFFFFFFFFFFFF, "W")].map finding
    Splice.ofFixes? "aéb;cd" (diagnostics.filterMap (·.fix)) = some ⟨"aébXébYcd", 2, 3⟩ := by
  intro finding diagnostics
  obtain ⟨-, -, same⟩ := applyFixes_slices_in_range "aéb;cd" diagnostics
  have sorted : (diagnostics.filterMap (·.fix)).mergeSort Fix.le = diagnostics.filterMap (·.fix) :=
    List.mergeSort_of_pairwise (by decide)
  rw [same, applyFixes, Splice.ofFixes, Splice.run, sorted]
  decide +kernel

end ErrorLint
