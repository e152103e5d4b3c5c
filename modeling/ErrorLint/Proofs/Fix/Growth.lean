/-
This file proves that fixing only ever inserts. Every fix of every rule puts something
in front of the text that it replaces, or behind it, or both, and keeps that text: a
literal is wrapped, a generic error gets a longer name that ends like the old one, and a
class gets an ending. What is inserted holds no line feed and has at least five bytes.

Growth of this kind composes. It passes from the parts of a text to the whole, so from
the fixes to one pass, and from one pass to the next, so to all passes. A text that has
grown is another text; hence no two rules can undo each other's work for ever, and no
text is checked twice.
-/

import ErrorLint.Proofs.Fix.Passes
import ErrorLint.Proofs.Fix.Selection
import ErrorLint.Proofs.Linter.Traversal
import ErrorLint.Proofs.Tree.Provenance
import Mathlib.Data.List.Nodup

namespace ErrorLint

/-! ### Growth of texts -/

/-- A text has grown by a number of insertions: it holds the old text in order, has as many
line feeds, and at least five more bytes for each insertion. -/
structure Growth (old new : List Char) (insertions : Nat) : Prop where
  sublist : old.Sublist new
  newlines : new.count '\n' = old.count '\n'
  bytes : Text.byteLength old + 5 * insertions ≤ Text.byteLength new

namespace Growth

theorem refl (text : List Char) : Growth text text 0 :=
  ⟨List.Sublist.refl text, rfl, Nat.le_refl _⟩

theorem append {old new old' new' : List Char} {insertions insertions' : Nat}
    (left : Growth old new insertions) (right : Growth old' new' insertions') :
    Growth (old ++ old') (new ++ new') (insertions + insertions') := by
  refine ⟨left.sublist.append right.sublist, ?_, ?_⟩
  · rw [List.count_append, List.count_append, left.newlines, right.newlines]
  · have leftBytes := left.bytes
    have rightBytes := right.bytes
    rw [Text.byteLength_append, Text.byteLength_append]
    omega

theorem trans {old middle new : List Char} {insertions insertions' : Nat}
    (first : Growth old middle insertions) (second : Growth middle new insertions') :
    Growth old new (insertions + insertions') := by
  refine ⟨first.sublist.trans second.sublist, ?_, ?_⟩
  · rw [second.newlines, first.newlines]
  · have firstBytes := first.bytes
    have secondBytes := second.bytes
    omega

end Growth

/-! ### Growth by one fix -/

/-- A fix surrounds the text that it replaces: what it puts there is that text with
something around it. -/
structure Fix.Surrounds (text : List Char) (fix : Fix) : Prop where
  valid : fix.span.Valid text
  around : ∃ front back, fix.replacement.toList = front ++ Splice.covered text fix ++ back ∧
    '\n' ∉ front ++ back ∧ 5 ≤ Text.byteLength (front ++ back)

theorem Fix.Surrounds.growth {text : List Char} {fix : Fix} (surrounds : fix.Surrounds text) :
    Growth (Splice.covered text fix) fix.replacement.toList 1 := by
  obtain ⟨front, back, equal, plain, long⟩ := surrounds.around
  rw [List.mem_append, not_or] at plain
  rw [equal]
  refine ⟨?_, ?_, ?_⟩
  · rw [List.append_assoc]
    exact (List.sublist_append_left _ back).trans (List.sublist_append_right front _)
  · rw [List.count_append, List.count_append, List.count_eq_zero.mpr plain.1,
      List.count_eq_zero.mpr plain.2, Nat.zero_add, Nat.add_zero]
  · rw [Text.byteLength_append] at long
    rw [Text.byteLength_append, Text.byteLength_append]
    omega

/-- Every suggested name ends like the name of the generic error. -/
theorem Category.exists_front (category : Category) :
    ∃ front, category.className.toList = front ++ "Error".toList ∧ '\n' ∉ front ∧
      5 ≤ Text.byteLength front := by
  cases category with
  | validation => exact ⟨"Validation".toList, by decide⟩
  | notFound => exact ⟨"NotFound".toList, by decide⟩
  | unauthorized => exact ⟨"Unauthorized".toList, by decide⟩
  | timeout => exact ⟨"Timeout".toList, by decide⟩
  | network => exact ⟨"Network".toList, by decide⟩
  | generic => exact ⟨"Custom".toList, by decide⟩

/-- The callee of a construction stands below it, and covers its own name. -/
theorem Node.covered_callee {text : List Char} {operand callee : Node} {name : String}
    (constructs : operand.directConstructor? = some (callee, name))
    (faithful : ∀ child ∈ operand.children, child.term.IsFaithful text) (replacement : String) :
    callee.span.Valid text ∧ Splice.covered text ⟨callee.span, replacement⟩ = name.toList := by
  obtain ⟨arguments, -, named⟩ := directConstructor?_eq_some constructs
  have isChild := callee_mem_children constructs
  have isName : callee.term.form = .identifier name := by
    rw [← map_form, named]
    rfl
  exact ⟨(faithful callee isChild).valid, ((faithful callee isChild).spelled name isName).symm⟩

/-- Every fix that a rule proposes surrounds what it replaces. -/
theorem Proposal.surrounds {tree : SourceTree} {operand : Node} {rule : RuleId} {report : Report}
    (proposal : Proposal tree operand rule report)
    (faithful : operand.term.IsFaithful tree.source.toList)
    (faithfulChildren : ∀ child ∈ operand.children, child.term.IsFaithful tree.source.toList)
    {fix : Fix} (proposed : report.fix = some fix) : fix.Surrounds tree.source.toList := by
  cases proposal with
  | wraps literal =>
    cases proposed
    refine ⟨faithful.valid, "new Error(".toList, ")".toList, ?_, by decide, by decide⟩
    simp only [NoThrowLiteral.wrap, String.toList_append, SourceTree.textAt, String.toList_ofList]
    rfl
  | renames callee category constructs =>
    cases proposed
    obtain ⟨valid, covered⟩ := Node.covered_callee constructs faithfulChildren category.className
    obtain ⟨front, equal, plain, long⟩ := category.exists_front
    refine ⟨valid, front, [], ?_, by simpa using plain, by simpa using long⟩
    rw [covered, List.append_nil]
    exact equal
  | suffixes callee name constructs unmarked =>
    cases proposed
    obtain ⟨valid, covered⟩ := Node.covered_callee constructs faithfulChildren (name ++ "Error")
    refine ⟨valid, [], "Error".toList, ?_, by decide, by decide⟩
    rw [covered, List.nil_append]
    exact String.toList_append

/-- Every fix of every finding on a text surrounds what it replaces. -/
theorem Linter.surrounds_of_mem_lintTree (linter : Linter Rule) {parser : Parser}
    (valid : parser.HasValidSpans) (source : String) (dialect : Dialect) :
    ∀ diagnostic ∈ linter.lintTree (SourceTree.ofSource parser source dialect),
      ∀ fix ∈ diagnostic.fix, fix.Surrounds source.toList := by
  intro diagnostic found fix hasFix
  obtain ⟨node, inTree, operand, report, throws, proposal, -, same⟩ :=
    exists_mends_of_mem_lintTree diagnostic found (Option.isSome_of_mem hasFix)
  have operandInTree := SourceTree.mem_nodes_of_thrown? inTree throws
  exact proposal.surrounds (SourceTree.isFaithful_of_mem_nodes valid operandInTree)
    (fun child isChild => SourceTree.isFaithful_of_mem_nodes valid
      (SourceTree.mem_nodes_of_mem_children operandInTree isChild)) (same ▸ hasFix)

/-! ### Growth by one pass -/

namespace Splice

/-- Where every content grows, the woven text grows as often. -/
theorem growth_weave (text : List Char) {old new : Fix → List Char} {fixes : List Fix}
    (grows : ∀ fix ∈ fixes, Growth (old fix) (new fix) 1) (cursor : Nat) :
    Growth (weave text old cursor fixes) (weave text new cursor fixes) fixes.length := by
  induction fixes generalizing cursor with
  | nil => exact Growth.refl _
  | cons fix rest inductionHypothesis =>
    have here := (Growth.refl (Text.between text cursor fix.span.start)).append
      (grows fix List.mem_cons_self)
    have later := inductionHypothesis
      (fun other inRest => grows other (List.mem_cons_of_mem _ inRest)) fix.span.stop
    have both := here.append later
    rw [weave, weave, List.length_cons]
    rwa [show 0 + 1 + rest.length = rest.length + 1 by omega] at both

/-- A text grows by the fixes that are applied to it. -/
theorem growth_ofFixes {source : String} {fixes : List Fix}
    (surrounds : ∀ fix ∈ fixes, fix.Surrounds source.toList) :
    Growth source.toList (ofFixes source fixes).output.toList (ofFixes source fixes).applied := by
  have laidOut : LaidOut source.toList 0 (chosen source.toList fixes) :=
    laidOut_chosen fun fix member => (surrounds fix member).valid.ordered
  have grows : ∀ fix ∈ chosen source.toList fixes,
      Growth (covered source.toList fix) fix.replacement.toList 1 := by
    intro fix member
    have found := (isInBounds_of_mem_select member).1
    exact (surrounds fix (List.mem_mergeSort.mp found)).growth
  have grown := growth_weave source.toList grows 0
  rw [weave_covered laidOut, Text.between_zero_byteLength] at grown
  rw [output_ofFixes, applied_ofFixes]
  exact grown

end Splice

namespace Linter

/-- One pass makes the text grow by the fixes that it applies. -/
theorem growth_pass (linter : Linter Rule) {parser : Parser} (valid : parser.HasValidSpans)
    (dialect : Dialect) (source : String) :
    Growth source.toList (linter.pass parser dialect source).output.toList
      (linter.pass parser dialect source).applied := by
  refine Splice.growth_ofFixes fun fix member => ?_
  obtain ⟨diagnostic, found, hasFix⟩ := List.mem_filterMap.mp member
  exact linter.surrounds_of_mem_lintTree valid source dialect diagnostic found fix hasFix

/-! ### Growth by all passes -/

/-- The text grows by all fixes that are applied from here on. -/
theorem growth_fixPasses (linter : Linter Rule) {parser : Parser} (valid : parser.HasValidSpans)
    (dialect : Dialect) (left : Nat) (source : String) (passes fixesApplied : Nat) :
    let report := linter.fixPasses parser dialect left source passes fixesApplied
    ∃ more, report.fixesApplied = fixesApplied + more ∧
      Growth source.toList report.output.toList more := by
  refine linter.fixPasses_induction (motive := fun _ source _ fixesApplied report =>
    ∃ more, report.fixesApplied = fixesApplied + more ∧
      Growth source.toList report.output.toList more) ?_ ?_ ?_ left source passes fixesApplied
  · intro source passes fixesApplied
    exact ⟨0, rfl, Growth.refl _⟩
  · intro left source passes fixesApplied unchanged
    exact ⟨0, rfl, Growth.refl _⟩
  · rintro left source passes fixesApplied report changed ⟨more, applied, grown⟩
    exact ⟨(linter.pass parser dialect source).applied + more, by rw [applied, Nat.add_assoc],
      (linter.growth_pass valid dialect source).trans grown⟩

/-- Every text is longer than all texts before it, so it is none of them. -/
theorem nodup_fixTexts (linter : Linter Rule) {parser : Parser} (valid : parser.HasValidSpans)
    (dialect : Dialect) (left : Nat) (source : String) :
    (linter.fixTexts parser dialect left source).Nodup := by
  have longer : (linter.fixTexts parser dialect left source).IsChain fun before after =>
      Text.byteLength before.toList < Text.byteLength after.toList := by
    refine (linter.isChain_fixTexts parser dialect left source).imp ?_
    rintro before after ⟨changed, rfl⟩
    have grown := (linter.growth_pass valid dialect before).bytes
    have applied := applied_pos_of_changed changed
    omega
  have lengths := List.isChain_map_of_isChain (fun text : String => Text.byteLength text.toList)
    (fun _ _ shorter => shorter) longer
  refine List.Nodup.of_map (fun text : String => Text.byteLength text.toList) ?_
  exact lengths.pairwise.imp Nat.ne_of_lt

/-- Fixing only inserts. The source can be read off the output by leaving characters out,
both have equally many line feeds, and every applied fix adds five bytes or more. The same
holds of every single pass, from each text that is checked on the way to the next one, and
no text is checked twice. -/
theorem fixSource_only_inserts (linter : Linter Rule) (parser : Parser)
    (valid : parser.HasValidSpans)
    (source : String) (dialect : Dialect) :
    let report := linter.fixSource parser source dialect
    let texts := linter.fixTexts parser dialect maxFixPasses source
    (source.toList.Sublist report.output.toList ∧
        report.output.toList.count '\n' = source.toList.count '\n' ∧
        source.utf8ByteSize + 5 * report.fixesApplied ≤ report.output.utf8ByteSize) ∧
      (texts.head? = some source ∧ texts.getLast? = some report.output ∧
        texts.length = report.passes + 1) ∧
      (texts.IsChain fun before after =>
        after = (linter.pass parser dialect before).output ∧
          before.toList.Sublist after.toList ∧
          after.toList.count '\n' = before.toList.count '\n' ∧
          before.utf8ByteSize + 5 * (linter.pass parser dialect before).applied ≤
            after.utf8ByteSize) ∧
      texts.Nodup := by
  intro report texts
  obtain ⟨more, applied, grown⟩ := linter.growth_fixPasses valid dialect maxFixPasses source 0 0
  rw [Nat.zero_add] at applied
  have counted : report.fixesApplied = more := applied
  obtain ⟨last, length⟩ := linter.fixTexts_eq_passes parser dialect maxFixPasses source 0 0
  refine ⟨⟨grown.sublist, grown.newlines, ?_⟩,
    ⟨linter.head?_fixTexts parser dialect maxFixPasses source, last, ?_⟩, ?_, ?_⟩
  · rw [counted, ← Text.byteLength_eq_utf8ByteSize, ← Text.byteLength_eq_utf8ByteSize]
    exact grown.bytes
  · rwa [Nat.zero_add] at length
  · refine (linter.isChain_fixTexts parser dialect maxFixPasses source).imp ?_
    rintro before after ⟨-, rfl⟩
    have step := linter.growth_pass valid dialect before
    refine ⟨rfl, step.sublist, step.newlines, ?_⟩
    rw [← Text.byteLength_eq_utf8ByteSize, ← Text.byteLength_eq_utf8ByteSize]
    exact step.bytes
  · exact linter.nodup_fixTexts valid dialect maxFixPasses source

end Linter

/-! ### A sample -/

namespace Sample

/-- A named node of a concrete tree, in a row that starts at an offset. -/
def nodeIn (row first : Nat) (symbol : String) (field : Option String) (start stop : Nat)
    (children : List Concrete) : Concrete :=
  .node ⟨symbol, true, false, field, ⟨start, stop⟩, ⟨row, start - first⟩⟩ children

/-- A named node of a concrete tree, in the first row of a text. -/
def node (symbol : String) (field : Option String) (start stop : Nat) (children : List Concrete) :
    Concrete :=
  nodeIn 0 0 symbol field start stop children

/-- The tree of a text that throws a construction whose name ends at the given offset. -/
def construction (nameStop : Nat) : Concrete :=
  node "program" none 0 (nameStop + 7) [
    node "throw_statement" none 0 (nameStop + 7) [
      node "new_expression" none 6 (nameStop + 6) [
        node "identifier" (some "constructor") 10 nameStop [],
        node "arguments" (some "arguments") nameStop (nameStop + 6) [
          node "string" none (nameStop + 1) (nameStop + 5) [
            node "string_fragment" none (nameStop + 2) (nameStop + 4) []]]]]]

/-- A grammar that knows a text that throws a literal, and the texts that fixing makes of it.
It takes every other text for an empty program. -/
def parser : Parser := fun source _ =>
  ⟨false,
    if source = "throw 'é';" then
      node "program" none 0 11 [
        node "throw_statement" none 0 11 [
          node "string" none 6 10 [node "string_fragment" none 7 9 []]]]
    else if source = "throw new Error('é');" then construction 15
    else if source = "throw new CustomError('é');" then construction 21
    else node "program" none 0 0 []⟩

theorem hasValidSpans : parser.HasValidSpans := by
  intro source dialect
  unfold parser
  dsimp only
  split
  · rename_i equal
    subst equal
    decide
  · split
    · rename_i equal
      subst equal
      decide
    · split
      · rename_i equal
        subst equal
        decide
      · intro inner member
        obtain rfl := List.mem_singleton.mp member
        exact ⟨Nat.le_refl _, Text.isBoundary_zero _, Text.isBoundary_zero _⟩

/-- The rules that wrap a thrown literal and rename a generic error. -/
def linter : Linter Rule :=
  (Linter.empty.add (.noThrowLiteral .defaults) .error).add (.noGenericError .defaults) .error

/-- One pass wraps the literal, the next one renames the error that it is wrapped in. -/
theorem fixSource_linter :
    linter.fixSource parser "throw 'é';" .javascript =
      ⟨"throw new CustomError('é');", 2, 2, []⟩ := by
  decide +kernel

end Sample

/-- A thrown literal with a character of two bytes is kept by two passes that apply a fix
each. -/
theorem Linter.fixSource_only_inserts_sample :
    let report := Sample.linter.fixSource Sample.parser "throw 'é';" .javascript
    Sample.parser.HasValidSpans ∧
      report.passes = 2 ∧ report.fixesApplied = 2 ∧
      "throw 'é';".toList.Sublist report.output.toList ∧
      report.output.toList.count '\n' = "throw 'é';".toList.count '\n' ∧
      "throw 'é';".utf8ByteSize + 5 * report.fixesApplied ≤ report.output.utf8ByteSize := by
  intro report
  have passes : report.passes = 2 := congrArg FixReport.passes Sample.fixSource_linter
  have applied : report.fixesApplied = 2 := congrArg FixReport.fixesApplied Sample.fixSource_linter
  exact ⟨Sample.hasValidSpans, passes, applied, (Linter.fixSource_only_inserts Sample.linter
    Sample.parser Sample.hasValidSpans "throw 'é';" .javascript).1⟩

end ErrorLint
