/-
This file proves that the loop of passes knows when it is done. It ends at its limit or
with a pass that changes nothing, and the number of passes tells the two apart: fewer
passes than the limit allows mean that the last pass found nothing to apply. A rule never
proposes a fix that cannot be applied, and where some fix can be applied a pass applies
one; so after such an end no finding carries a fix at all, and fixing the output once
more is a single pass that stops at once.
-/

import ErrorLint.Proofs.Fix.Growth

namespace ErrorLint.Linter

/-! ### The end of the loop -/

section

variable (linter : Linter Rule) (parser : Parser) (dialect : Dialect) (left : Nat) (source : String)
  (passes fixesApplied : Nat)

/-- No more passes are made than are left. -/
theorem passes_fixPasses_le :
    (linter.fixPasses parser dialect left source passes fixesApplied).passes ≤ passes + left := by
  refine linter.fixPasses_induction (motive := fun left _ passes _ report =>
    report.passes ≤ passes + left) ?_ ?_ ?_ left source passes fixesApplied
  · intro source passes fixesApplied
    exact Nat.le_refl _
  · intro left source passes fixesApplied unchanged
    exact Nat.le_add_right _ _
  · intro left source passes fixesApplied report changed bound
    omega

/-- Every pass that is counted has applied something, so fixes keep ahead of passes. -/
theorem passes_fixPasses_le_fixesApplied (ahead : passes ≤ fixesApplied) :
    let report := linter.fixPasses parser dialect left source passes fixesApplied
    report.passes ≤ report.fixesApplied := by
  refine linter.fixPasses_induction (motive := fun _ _ passes fixesApplied report =>
    passes ≤ fixesApplied → report.passes ≤ report.fixesApplied)
    ?_ ?_ ?_ left source passes fixesApplied ahead
  · intro source passes fixesApplied ahead
    exact ahead
  · intro left source passes fixesApplied unchanged ahead
    exact ahead
  · intro left source passes fixesApplied report changed inductionHypothesis ahead
    have applied := applied_pos_of_changed changed
    exact inductionHypothesis (by omega)

/-- What remains are the findings on the output, whichever way the loop ends. -/
theorem remaining_fixPasses :
    let report := linter.fixPasses parser dialect left source passes fixesApplied
    report.remaining = linter.findings parser dialect report.output := by
  refine linter.fixPasses_induction (motive := fun _ _ _ _ report =>
    report.remaining = linter.findings parser dialect report.output)
    ?_ ?_ ?_ left source passes fixesApplied
  · intro source passes fixesApplied
    rfl
  · intro left source passes fixesApplied unchanged
    rfl
  · intro left source passes fixesApplied report changed remaining
    exact remaining

/-- A loop that ends before its limit ends with a pass that changes nothing. -/
theorem unchanged_of_passes_fixPasses_lt
    (early : (linter.fixPasses parser dialect left source passes fixesApplied).passes <
      passes + left) :
    (linter.pass parser dialect
      (linter.fixPasses parser dialect left source passes fixesApplied).output).changed =
        false := by
  refine linter.fixPasses_induction (motive := fun left _ passes _ report =>
    report.passes < passes + left → (linter.pass parser dialect report.output).changed = false)
    ?_ ?_ ?_ left source passes fixesApplied early
  · intro source passes fixesApplied early
    exact absurd early (Nat.lt_irrefl _)
  · intro left source passes fixesApplied unchanged early
    exact unchanged
  · intro left source passes fixesApplied report changed inductionHypothesis early
    exact inductionHypothesis (by omega)

end

/-! ### A text that a pass leaves alone -/

/-- A pass that changes nothing found nothing to fix. -/
theorem fix_eq_none_of_unchanged {linter : Linter Rule} {parser : Parser}
    (valid : parser.HasValidSpans)
    {dialect : Dialect} {source : String}
    (unchanged : (linter.pass parser dialect source).changed = false) :
    ∀ diagnostic ∈ linter.findings parser dialect source, diagnostic.fix = none := by
  intro diagnostic found
  cases hasFix : diagnostic.fix with
  | none => rfl
  | some fix =>
    have surrounds := linter.surrounds_of_mem_lintTree valid source dialect diagnostic found fix
      hasFix
    have member : fix ∈ (linter.findings parser dialect source).filterMap (·.fix) :=
      List.mem_filterMap.mpr ⟨diagnostic, found, hasFix⟩
    have applied : 0 < (linter.pass parser dialect source).applied :=
      Splice.applied_ofFixes_pos_iff.mpr ⟨fix, member, Fix.isInBounds_of_valid surrounds.valid⟩
    rw [Splice.changed, decide_eq_false_iff_not] at unchanged
    exact absurd applied unchanged

/-- Fixing a text that a pass leaves alone gives it back. -/
theorem fixSource_of_unchanged {linter : Linter Rule} {parser : Parser} {dialect : Dialect}
    {source : String} (unchanged : (linter.pass parser dialect source).changed = false) :
    linter.fixSource parser source dialect =
      ⟨source, 0, 0, linter.findings parser dialect source⟩ := by
  show linter.fixPasses parser dialect (maxFixPasses - 1 + 1) source 0 0 = _
  exact fixPasses_of_unchanged unchanged _ 0 0

/-- Fixing reports its own end. It makes no more passes than its limit and applies no fewer
fixes than it makes passes, and what it reports as remaining are the findings on its output.
If it makes fewer passes than its limit, none of these findings carries a fix, and fixing the
output again gives the same output and the same findings without a pass and without a fix. -/
theorem fixSource_stops_at_fixpoint (linter : Linter Rule) (parser : Parser)
    (valid : parser.HasValidSpans) (source : String) (dialect : Dialect) :
    let report := linter.fixSource parser source dialect
    report.passes ≤ maxFixPasses ∧
      report.passes ≤ report.fixesApplied ∧
      report.remaining = linter.lintTree (SourceTree.ofSource parser report.output dialect) ∧
      (report.passes < maxFixPasses →
        (∀ diagnostic ∈ report.remaining, diagnostic.fix = none) ∧
          linter.fixSource parser report.output dialect =
            { output := report.output
              passes := 0
              fixesApplied := 0
              remaining := report.remaining }) := by
  intro report
  have atMost := linter.passes_fixPasses_le parser dialect maxFixPasses source 0 0
  have remaining : report.remaining = linter.findings parser dialect report.output :=
    linter.remaining_fixPasses parser dialect maxFixPasses source 0 0
  refine ⟨?_, ?_, remaining, ?_⟩
  · rwa [Nat.zero_add] at atMost
  · exact linter.passes_fixPasses_le_fixesApplied parser dialect maxFixPasses source 0 0
      (Nat.le_refl 0)
  · intro early
    have unchanged : (linter.pass parser dialect report.output).changed = false :=
      linter.unchanged_of_passes_fixPasses_lt parser dialect maxFixPasses source 0 0
        (by rwa [Nat.zero_add])
    rw [remaining]
    exact ⟨fix_eq_none_of_unchanged valid unchanged, fixSource_of_unchanged unchanged⟩

/-- The sample is fixed in two passes that apply a fix each; what they leave has no findings
and is not changed again. -/
theorem fixSource_stops_at_fixpoint_sample :
    let report := Sample.linter.fixSource Sample.parser "throw 'é';" .javascript
    Sample.parser.HasValidSpans ∧
      report.passes = 2 ∧ report.fixesApplied = 2 ∧ report.passes < maxFixPasses ∧
      report.remaining = [] ∧
      Sample.linter.fixSource Sample.parser report.output .javascript =
        ⟨report.output, 0, 0, report.remaining⟩ := by
  intro report
  have made : report = ⟨"throw new CustomError('é');", 2, 2, []⟩ := Sample.fixSource_linter
  have early : report.passes < maxFixPasses := by
    rw [made]
    decide
  have stops := fixSource_stops_at_fixpoint Sample.linter Sample.parser
    Sample.hasValidSpans "throw 'é';" .javascript
  exact ⟨Sample.hasValidSpans, congrArg FixReport.passes made,
    congrArg FixReport.fixesApplied made, early, congrArg FixReport.remaining made,
    (stops.2.2.2 early).2⟩

end ErrorLint.Linter
