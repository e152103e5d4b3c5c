/-
This file proves that fixing does not depend on the order in which rules are registered.
The order decides the order of the findings, and the findings hand their fixes to a stable
sort, so two fixes of one span would come out in the order of their rules. But the fix of
a throw is a matter of its operand alone: whichever rules are active, at whatever severity
and how often, two fixes of one span belong to one throw and write the same. So the sort
sees no difference, one pass writes the same text for both orders, and the passes go hand
in hand to the end.
-/

import ErrorLint.Proofs.Fix.Growth
import ErrorLint.Proofs.Fix.Nesting
import Mathlib.Data.List.Perm.Basic

namespace ErrorLint

/-! ### Sorting fixes -/

/-- Two fixes that the order cannot tell apart replace the same span. -/
theorem Fix.span_eq_of_le {first second : Fix} (before : first.le second = true)
    (after : second.le first = true) : first.span = second.span := by
  rw [Fix.le_iff] at before after
  have start : first.span.start = second.span.start := by omega
  have stop : first.span.stop = second.span.stop := by omega
  show Span.mk first.span.start first.span.stop = Span.mk second.span.start second.span.stop
  rw [start, stop]

/-- Fixes agree if those of one span are the same. -/
def Fix.Agree (fixes : List Fix) : Prop :=
  ∀ first ∈ fixes, ∀ second ∈ fixes, first.span = second.span → first = second

/-- Fixes that agree are sorted in one way only. -/
theorem Fix.Agree.mergeSort_eq {fixes others : List Fix} (agree : Fix.Agree fixes)
    (reordered : fixes.Perm others) : fixes.mergeSort Fix.le = others.mergeSort Fix.le := by
  have sorted : ∀ some : List Fix,
      (some.mergeSort Fix.le).Pairwise fun left right => left.le right = true :=
    List.pairwise_mergeSort Fix.le_trans Fix.le_total
  refine List.Perm.eq_of_pairwise ?_ (sorted fixes) (sorted others) ?_
  · intro first second inFixes inOthers before after
    have firstFound := List.mem_mergeSort.mp inFixes
    have secondFound := reordered.mem_iff.mpr (List.mem_mergeSort.mp inOthers)
    exact agree first firstFound second secondFound (Fix.span_eq_of_le before after)
  · exact (List.mergeSort_perm fixes Fix.le).trans
      (reordered.trans (List.mergeSort_perm others Fix.le).symm)

/-- Fixes that agree are applied in one way only. -/
theorem Fix.Agree.ofFixes_eq {fixes others : List Fix} (agree : Fix.Agree fixes)
    (reordered : fixes.Perm others) (source : String) :
    Splice.ofFixes source fixes = Splice.ofFixes source others := by
  unfold Splice.ofFixes Splice.run
  rw [agree.mergeSort_eq reordered]

/-! ### The fix of a throw -/

/-- Two findings that mend one throw have the same fix. -/
theorem Diagnostic.Mends.fix_unique {tree : SourceTree} {node : Node} {first second : Diagnostic}
    (firstMends : first.Mends tree node) (secondMends : second.Mends tree node) :
    first.fix = second.fix := by
  obtain ⟨operand, report, throws, proposal, -, same⟩ := firstMends
  obtain ⟨operand', report', throws', proposal', -, same'⟩ := secondMends
  obtain rfl : operand' = operand := Option.some.inj (throws'.symm.trans throws)
  rw [same, same', proposal.fix_unique proposal']

namespace Linter

/-- Two fixes of one span belong to the same throw, so they are the same. -/
theorem agree_fixes (linter : Linter Rule) {tree : SourceTree} (wellFormed : tree.WellFormed) :
    Fix.Agree ((linter.lintTree tree).filterMap (·.fix)) := by
  intro first firstMember second secondMember sameSpan
  obtain ⟨firstFinding, -, hasFirst, node, inTree, mends, belongs⟩ :=
    exists_mends_of_mem_fixes firstMember
  obtain ⟨secondFinding, -, hasSecond, other, otherInTree, otherMends, otherBelongs⟩ :=
    exists_mends_of_mem_fixes secondMember
  have belongsToOther : first.BelongsTo other := by
    obtain ⟨target, isTarget, replaces⟩ := otherBelongs
    exact ⟨target, isTarget, sameSpan.trans replaces⟩
  obtain rfl := belongs.unique wellFormed inTree otherInTree belongsToOther
  have same := mends.fix_unique otherMends
  rw [hasFirst, hasSecond] at same
  exact Option.some.inj same

/-! ### Reordering rules -/

/-- Two linters are built from the same rules, with the same options and severities, in any
two orders. -/
structure Reordered (first second : Linter Rule) : Prop where
  firstBuilt : first.IsBuilt
  secondBuilt : second.IsBuilt
  activations : first.activations.Perm second.activations

namespace Reordered

variable {first second : Linter Rule}

/-- At every node, and at the end, the same is said in another order. -/
theorem emit_perm (reordered : first.Reordered second) (tree : SourceTree) :
    (first.emit tree).Perm (second.emit tree) := by
  rw [reordered.firstBuilt.emit_eq, reordered.secondBuilt.emit_eq]
  refine List.Perm.append ?_ (reordered.activations.flatMap_right _)
  exact List.Perm.flatMap_left _ fun node _ => reordered.activations.flatMap_right _

theorem lintTree_perm (reordered : first.Reordered second) (tree : SourceTree) :
    (first.lintTree tree).Perm (second.lintTree tree) :=
  (reordered.emit_perm tree).filter _

end Reordered

end Linter

/-- Every tree of the grammar is lowered to a well-formed one. -/
def Parser.LowersWellFormed (parser : Parser) : Prop :=
  ∀ source dialect, (SourceTree.ofSource parser source dialect).WellFormed

namespace Linter

/-- One pass is the same for both orders. -/
theorem Reordered.pass_eq {first second : Linter Rule} (reordered : first.Reordered second)
    {parser : Parser} (wellFormed : parser.LowersWellFormed) (dialect : Dialect)
    (source : String) : first.pass parser dialect source = second.pass parser dialect source :=
  (first.agree_fixes (wellFormed source dialect)).ofFixes_eq
    ((reordered.lintTree_perm _).filterMap _) source

/-- The passes for the two orders see the same texts and end at the same one. -/
theorem Reordered.fixPasses_eq {first second : Linter Rule} (reordered : first.Reordered second)
    {parser : Parser} (wellFormed : parser.LowersWellFormed) (dialect : Dialect) (left : Nat)
    (source : String) (passes fixesApplied : Nat) :
    let report := first.fixPasses parser dialect left source passes fixesApplied
    let other := second.fixPasses parser dialect left source passes fixesApplied
    report.output = other.output ∧ report.passes = other.passes ∧
      report.fixesApplied = other.fixesApplied ∧ report.remaining.Perm other.remaining := by
  refine first.fixPasses_induction (motive := fun left source passes fixesApplied report =>
    let other := second.fixPasses parser dialect left source passes fixesApplied
    report.output = other.output ∧ report.passes = other.passes ∧
      report.fixesApplied = other.fixesApplied ∧ report.remaining.Perm other.remaining)
    ?_ ?_ ?_ left source passes fixesApplied
  · intro source passes fixesApplied
    exact ⟨rfl, rfl, rfl, reordered.lintTree_perm _⟩
  · intro left source passes fixesApplied unchanged
    rw [reordered.pass_eq wellFormed] at unchanged
    rw [fixPasses_of_unchanged unchanged]
    exact ⟨rfl, rfl, rfl, reordered.lintTree_perm _⟩
  · intro left source passes fixesApplied report changed inductionHypothesis
    rw [reordered.pass_eq wellFormed] at changed inductionHypothesis
    rw [fixPasses_of_changed changed]
    exact inductionHypothesis

/-- Fixing does not depend on the order of the rules. Two fixes of one span write the same,
and fixing gives the same text after as many passes and fixes for both orders; what remains
is the same in another order. -/
theorem fixSource_independent_of_order (first second : Linter Rule)
    (reordered : first.Reordered second) (parser : Parser)
    (wellFormed : parser.LowersWellFormed) (source : String) (dialect : Dialect) :
    let diagnostics := first.lintTree (SourceTree.ofSource parser source dialect)
    let report := first.fixSource parser source dialect
    let other := second.fixSource parser source dialect
    (∀ left ∈ diagnostics, ∀ right ∈ diagnostics, ∀ fix ∈ left.fix, ∀ fix' ∈ right.fix,
        fix.span = fix'.span → fix.replacement = fix'.replacement) ∧
      report.output = other.output ∧ report.passes = other.passes ∧
      report.fixesApplied = other.fixesApplied ∧ report.remaining.Perm other.remaining := by
  intro diagnostics report other
  refine ⟨?_, reordered.fixPasses_eq wellFormed dialect maxFixPasses source 0 0⟩
  intro left leftFound right rightFound fix hasFix fix' hasFix' sameSpan
  have agree := first.agree_fixes (wellFormed source dialect)
  have same := agree fix (List.mem_filterMap.mpr ⟨left, leftFound, hasFix⟩) fix'
    (List.mem_filterMap.mpr ⟨right, rightFound, hasFix'⟩) sameSpan
  rw [same]

end Linter

/-! ### A sample -/

namespace Sample

/-- A linter that has the rule about thrown literals twice, at two severities. -/
def doubled : Linter Rule :=
  ((Linter.empty.add (.noThrowLiteral .defaults) .warn).add (.noGenericError .defaults) .error).add
    (.noThrowLiteral .defaults) .error

/-- The same rules in the opposite order. -/
def doubledBack : Linter Rule :=
  ((Linter.empty.add (.noThrowLiteral .defaults) .error).add (.noGenericError .defaults) .error).add
    (.noThrowLiteral .defaults) .warn

theorem reordered_doubled : doubled.Reordered doubledBack where
  firstBuilt := .add _ _ (.add _ _ (.add _ _ .empty))
  secondBuilt := .add _ _ (.add _ _ (.add _ _ .empty))
  activations := (List.reverse_perm _).symm

theorem parser_lowersWellFormed : parser.LowersWellFormed := by
  intro source dialect
  show (SourceTree.ofSource parser source .javascript).WellFormed
  by_cases thrown : source = "throw 'é';"
  · subst thrown
    decide +kernel
  by_cases wrapped : source = "throw new Error('é');"
  · subst wrapped
    decide +kernel
  by_cases renamed : source = "throw new CustomError('é');"
  · subst renamed
    decide +kernel
  -- What is left is an empty program.
  have parsed : (parser source .javascript).root = node "program" none 0 0 [] := by
    unfold parser
    rw [if_neg thrown, if_neg wrapped, if_neg renamed]
  have lowered : (SourceTree.ofSource parser source .javascript).root =
      .node ⟨⟨0, 0⟩, Position.first⟩ (.program []) := by
    show Lowering.lower source.toList (parser source .javascript).root = _
    rw [parsed, Lowering.lower_eq]
    rfl
  intro found member
  rw [SourceTree.nodes, lowered] at member
  obtain rfl := List.mem_singleton.mp member
  refine ⟨⟨Nat.le_refl _, Text.isBoundary_zero _, Text.isBoundary_zero _⟩, ?_, ?_, ?_⟩
  · intro child isChild
    cases isChild
  · exact List.Pairwise.nil
  · intro operand throws
    cases throws

/-- The fix of the sample's literal. -/
def wrapped : Fix := ⟨⟨6, 10⟩, "new Error('é')"⟩

/-- Of the two fixes the first pass applies one and skips the other. -/
theorem pass_doubled :
    doubled.pass parser .javascript "throw 'é';" = ⟨"throw new Error('é');", 1, 1⟩ := by
  have fixes : (doubled.findings parser .javascript "throw 'é';").filterMap (·.fix) =
      [wrapped, wrapped] := by
    decide +kernel
  show Splice.ofFixes _ ((doubled.findings parser .javascript "throw 'é';").filterMap (·.fix)) = _
  rw [fixes, Splice.ofFixes, Splice.run, List.mergeSort_of_pairwise (by decide)]
  decide +kernel

theorem fixSource_doubled :
    doubled.fixSource parser "throw 'é';" .javascript =
      ⟨"throw new CustomError('é');", 2, 2, []⟩ := by
  have changed : (doubled.pass parser .javascript "throw 'é';").changed = true := by
    rw [pass_doubled]
    rfl
  show doubled.fixPasses parser .javascript (maxFixPasses - 1 + 1) "throw 'é';" 0 0 = _
  rw [Linter.fixPasses_of_changed changed, pass_doubled]
  decide +kernel

end Sample

/-- A literal with two fixes of one span, by one rule at two severities, is fixed alike in
both orders. -/
theorem Linter.fixSource_independent_of_order_sample :
    (Sample.doubled.Reordered Sample.doubledBack ∧ Sample.parser.LowersWellFormed) ∧
      (Sample.doubled.findings Sample.parser .javascript "throw 'é';").map (fun finding =>
        (finding.severity, finding.fix)) =
          [(.warn, some Sample.wrapped), (.error, some Sample.wrapped)] ∧
      let report := Sample.doubledBack.fixSource Sample.parser "throw 'é';" .javascript
      report.output = "throw new CustomError('é');" ∧ report.passes = 2 ∧
        report.fixesApplied = 2 := by
  obtain ⟨-, output, passes, fixesApplied, -⟩ :=
    fixSource_independent_of_order Sample.doubled Sample.doubledBack Sample.reordered_doubled
      Sample.parser Sample.parser_lowersWellFormed "throw 'é';" .javascript
  rw [Sample.fixSource_doubled] at output passes fixesApplied
  exact ⟨⟨Sample.reordered_doubled, Sample.parser_lowersWellFormed⟩, by decide +kernel,
    output.symm, passes.symm, fixesApplied.symm⟩

end ErrorLint
