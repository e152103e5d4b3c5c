/-
This file describes the loop of passes. A run of the loop ends in one of two ways, at
the limit or with a pass that changes nothing, and both give the same kind of report;
whatever is to be shown of a report is shown for these two ends and handed back over a
pass that changes the text. The texts that the loop checks on its way are listed apart,
since the report keeps only the last of them.
-/

import ErrorLint.Linter.Fixing
import Mathlib.Data.List.Chain

namespace ErrorLint.Linter

variable {R M : Type} [RuleKind R M]

/-- The findings on a source text. -/
def findings (linter : Linter R) (parser : Parser) (dialect : Dialect) (source : String) :
    List Diagnostic :=
  linter.lintTree (SourceTree.ofSource parser source dialect)

/-- One pass over a source text. -/
def pass (linter : Linter R) (parser : Parser) (dialect : Dialect) (source : String) : Splice :=
  applyFixes source (linter.findings parser dialect source)

section

variable {linter : Linter R} {parser : Parser} {dialect : Dialect} {source : String}

/-! ### The loop -/

theorem fixPasses_of_changed (changed : (linter.pass parser dialect source).changed = true)
    (left passes fixesApplied : Nat) :
    linter.fixPasses parser dialect (left + 1) source passes fixesApplied =
      linter.fixPasses parser dialect left (linter.pass parser dialect source).output (passes + 1)
        (fixesApplied + (linter.pass parser dialect source).applied) := by
  rw [fixPasses]
  exact if_pos changed

theorem fixPasses_of_unchanged (unchanged : (linter.pass parser dialect source).changed = false)
    (left passes fixesApplied : Nat) :
    linter.fixPasses parser dialect (left + 1) source passes fixesApplied =
      ⟨source, passes, fixesApplied, linter.findings parser dialect source⟩ := by
  rw [fixPasses]
  exact if_neg (by rw [Bool.not_eq_true]; exact unchanged)

end

/-- What holds of a report at the limit and of one after a pass without a change, and is
handed back over a pass that changes the text, holds of the report of every run. -/
theorem fixPasses_induction (linter : Linter R) {parser : Parser} {dialect : Dialect}
    {motive : (left : Nat) → (source : String) → (passes fixesApplied : Nat) → FixReport → Prop}
    (limit : ∀ source passes fixesApplied, motive 0 source passes fixesApplied
      ⟨source, passes, fixesApplied, linter.findings parser dialect source⟩)
    (stop : ∀ left source passes fixesApplied,
      (linter.pass parser dialect source).changed = false →
        motive (left + 1) source passes fixesApplied
          ⟨source, passes, fixesApplied, linter.findings parser dialect source⟩)
    (go : ∀ left source passes fixesApplied report,
      (linter.pass parser dialect source).changed = true →
        motive left (linter.pass parser dialect source).output (passes + 1)
          (fixesApplied + (linter.pass parser dialect source).applied) report →
        motive (left + 1) source passes fixesApplied report)
    (left : Nat) (source : String) (passes fixesApplied : Nat) :
    motive left source passes fixesApplied
      (linter.fixPasses parser dialect left source passes fixesApplied) := by
  induction left generalizing source passes fixesApplied with
  | zero => exact limit source passes fixesApplied
  | succ left inductionHypothesis =>
    cases changed : (linter.pass parser dialect source).changed with
    | true =>
      rw [fixPasses_of_changed changed]
      exact go left source passes fixesApplied _ changed (inductionHypothesis _ _ _)
    | false =>
      rw [fixPasses_of_unchanged changed]
      exact stop left source passes fixesApplied changed

/-- A pass that changes the text applies something. -/
theorem applied_pos_of_changed {linter : Linter R} {parser : Parser} {dialect : Dialect}
    {source : String} (changed : (linter.pass parser dialect source).changed = true) :
    0 < (linter.pass parser dialect source).applied := by
  rwa [Splice.changed, decide_eq_true_eq] at changed

/-! ### The texts on the way -/

/-- The texts that fixing checks, one after the other, if it makes at most `left` passes. -/
def fixTexts (linter : Linter R) (parser : Parser) (dialect : Dialect) :
    (left : Nat) → (source : String) → List String
  | 0, source => [source]
  | left + 1, source =>
    if (linter.pass parser dialect source).changed then
      source :: linter.fixTexts parser dialect left (linter.pass parser dialect source).output
    else
      [source]

section

variable {linter : Linter R} {parser : Parser} {dialect : Dialect} {source : String}

theorem fixTexts_of_changed (changed : (linter.pass parser dialect source).changed = true)
    (left : Nat) :
    linter.fixTexts parser dialect (left + 1) source =
      source ::
        linter.fixTexts parser dialect left (linter.pass parser dialect source).output := by
  rw [fixTexts]
  exact if_pos changed

theorem fixTexts_of_unchanged (unchanged : (linter.pass parser dialect source).changed = false)
    (left : Nat) : linter.fixTexts parser dialect (left + 1) source = [source] := by
  rw [fixTexts]
  exact if_neg (by rw [Bool.not_eq_true]; exact unchanged)

end

theorem head?_fixTexts (linter : Linter R) (parser : Parser) (dialect : Dialect) (left : Nat)
    (source : String) : (linter.fixTexts parser dialect left source).head? = some source := by
  cases left with
  | zero => rfl
  | succ left =>
    rw [fixTexts]
    split <;> rfl

/-- The last text is the output, and every text before it had a pass that changed it. -/
theorem fixTexts_eq_passes (linter : Linter R) (parser : Parser) (dialect : Dialect) (left : Nat)
    (source : String) (passes fixesApplied : Nat) :
    let report := linter.fixPasses parser dialect left source passes fixesApplied
    let texts := linter.fixTexts parser dialect left source
    texts.getLast? = some report.output ∧ passes + texts.length = report.passes + 1 := by
  refine linter.fixPasses_induction (motive := fun left source passes _ report =>
    (linter.fixTexts parser dialect left source).getLast? = some report.output ∧
      passes + (linter.fixTexts parser dialect left source).length = report.passes + 1)
    ?_ ?_ ?_ left source passes fixesApplied
  · intro source passes fixesApplied
    exact ⟨rfl, rfl⟩
  · intro left source passes fixesApplied unchanged
    rw [fixTexts_of_unchanged unchanged]
    exact ⟨rfl, rfl⟩
  · rintro left source passes fixesApplied report changed ⟨last, length⟩
    rw [fixTexts_of_changed changed, List.length_cons, ← length]
    refine ⟨?_, by omega⟩
    rw [List.getLast?_cons, last]
    rfl

/-- From one text to the next there is one pass, which changes it. -/
theorem isChain_fixTexts (linter : Linter R) (parser : Parser) (dialect : Dialect) (left : Nat)
    (source : String) :
    (linter.fixTexts parser dialect left source).IsChain fun before after =>
      (linter.pass parser dialect before).changed = true ∧
        after = (linter.pass parser dialect before).output := by
  induction left generalizing source with
  | zero => exact List.isChain_singleton _
  | succ left inductionHypothesis =>
    cases changed : (linter.pass parser dialect source).changed with
    | true =>
      rw [fixTexts_of_changed changed]
      refine (inductionHypothesis _).cons fun next isNext => ?_
      rw [head?_fixTexts, Option.mem_some_iff] at isNext
      exact ⟨changed, isNext.symm⟩
    | false =>
      rw [fixTexts_of_unchanged changed]
      exact List.isChain_singleton _

end ErrorLint.Linter
