/-
This file is about the findings in the order of their positions. They are made in another order:
rules say more about a node when its children are seen, and a rule that waits for the end of the
tree comes last of all. Sorting compares lines and columns, and never offsets. A finding stands
at a node, the position of a node is counted from the start of its span, and counting keeps the
order of offsets; so the findings come in the order of the offsets at which they start, and
since sorting is stable, those that start at one offset come in the order in which they were
made.
-/

import ErrorLint.Linter.Result
import ErrorLint.Proofs.Fix.Growth
import ErrorLint.Proofs.Rule.Anchor
import ErrorLint.Proofs.Text.Positions
import ErrorLint.Proofs.Tree.Provenance

namespace ErrorLint

/-- The byte offset at which a finding starts. -/
def Diagnostic.start (diagnostic : Diagnostic) : Nat := diagnostic.place.span.start

/-! ### Sorting by a key -/

section

variable {α : Type} {key : α → Nat}

/-- Two comparisons that agree on the items sort them alike. -/
theorem mergeSort_congr {items : List α} {first second : α → α → Bool}
    (agree : ∀ left ∈ items, ∀ right ∈ items, first left right = second left right) :
    items.mergeSort first = items.mergeSort second := by
  have same := List.map_mergeSort (f := id) agree
  rwa [List.map_id, List.map_id] at same

/-- Whether an item has a key that is not larger. -/
def atMost (key : α → Nat) (left right : α) : Bool := key left ≤ key right

theorem atMost_trans (first second third : α) (before : atMost key first second = true)
    (after : atMost key second third = true) : atMost key first third = true := by
  simp only [atMost, decide_eq_true_eq] at before after ⊢
  exact Nat.le_trans before after

theorem atMost_total (left right : α) :
    (atMost key left right || atMost key right left) = true := by
  simp only [atMost, Bool.or_eq_true, decide_eq_true_eq]
  exact Nat.le_total _ _

theorem pairwise_mergeSort_atMost (key : α → Nat) (items : List α) :
    (items.mergeSort (atMost key)).Pairwise fun left right => key left ≤ key right := by
  refine (List.pairwise_mergeSort atMost_trans atMost_total items).imp fun ordered => ?_
  exact of_decide_eq_true ordered

/-- Items with one key are kept in order. -/
theorem filter_mergeSort_atMost (key : α → Nat) (items : List α) (value : Nat) :
    (items.mergeSort (atMost key)).filter (key · = value) = items.filter (key · = value) := by
  refine filter_mergeSort atMost_trans atMost_total (fun left right ofLeft ofRight => ?_) items
  rw [atMost, of_decide_eq_true ofLeft, of_decide_eq_true ofRight]
  exact decide_eq_true (Nat.le_refl value)

theorem pairwise_zipIdx (items : List α) :
    items.zipIdx.Pairwise fun left right => left.2 < right.2 := by
  have numbers : (items.zipIdx.map Prod.snd).Pairwise (· < ·) := by
    rw [List.zipIdx_map_snd]
    exact List.pairwise_lt_range'
  rwa [List.pairwise_map] at numbers

/-- Numbered items are sorted by their keys, and by their numbers where the keys are equal. -/
theorem pairwise_mergeSort_zipIdx (key : α → Nat) (items : List α) :
    (items.zipIdx.mergeSort (atMost (key ·.1))).Pairwise fun left right =>
      key left.1 < key right.1 ∨ key left.1 = key right.1 ∧ left.2 < right.2 := by
  refine List.pairwise_iff_forall_sublist.mpr fun {left right} inOrder => ?_
  have ascending := pairwise_mergeSort_atMost (key ·.1) items.zipIdx
  have ordered := List.pairwise_iff_forall_sublist.mp ascending inOrder
  rcases Nat.lt_or_eq_of_le ordered with smaller | equal
  · exact Or.inl smaller
  · have tied := inOrder.filter (fun item => key item.1 = key right.1)
    rw [filter_mergeSort_atMost (key ·.1) items.zipIdx (key right.1)] at tied
    simp only [List.filter_cons, equal, decide_true, if_true, List.filter_nil] at tied
    have numbered := List.pairwise_iff_forall_sublist.mp (pairwise_zipIdx items)
      (tied.trans List.filter_sublist)
    exact Or.inr ⟨equal, numbered⟩

end

/-! ### Sorting by positions -/

namespace LintResult

/-- The findings of a result are sorted by the offsets at which they start. -/
structure SortsByOffset (result : LintResult) : Prop where
  /-- All findings are there, and no others. -/
  perm : result.sorted.Perm result.diagnostics
  /-- The offsets do not decrease. -/
  ascending : result.sorted.Pairwise fun left right => left.start ≤ right.start
  /-- The order of lines and columns is the order of offsets. -/
  agrees : result.sorted = result.diagnostics.mergeSort (atMost Diagnostic.start)
  /-- The sorted findings are found at the sorted indices, which are all indices. -/
  located : result.sortedIndices.map (result.diagnostics[·]?) = result.sorted.map some
  indices : result.sortedIndices.Perm (List.range result.diagnostics.length)
  /-- Of two findings that start at one offset, the one that was made first comes first. -/
  stable : result.sortedIndices.Pairwise fun left right =>
    ∀ first ∈ result.diagnostics[left]?, ∀ second ∈ result.diagnostics[right]?,
      first.start < second.start ∨ first.start = second.start ∧ left < right
  /-- Lines and columns are no larger than offsets counted from one, so whatever holds the
  offsets of a source holds its lines and columns. -/
  bounded : ∀ diagnostic ∈ result.diagnostics,
    diagnostic.place.position.line ≤ diagnostic.start + 1 ∧
      diagnostic.place.position.column ≤ diagnostic.start + 1

/-- Findings whose positions are counted from their offsets are sorted by offset. -/
theorem sortsByOffset_of_placed {result : LintResult} {text : List Char}
    (placed : ∀ diagnostic ∈ result.diagnostics,
      diagnostic.place.position = Position.ofOffset text diagnostic.start) :
    result.SortsByOffset := by
  have compared : ∀ left ∈ result.diagnostics, ∀ right ∈ result.diagnostics,
      left.place.position.le right.place.position = atMost Diagnostic.start left right := by
    intro left leftIn right rightIn
    rw [placed left leftIn, placed right rightIn, Bool.eq_iff_iff, Position.le_ofOffset_iff,
      atMost, decide_eq_true_eq]
  have agrees : result.sorted = result.diagnostics.mergeSort (atMost Diagnostic.start) :=
    mergeSort_congr compared
  let pairs := result.diagnostics.zipIdx.mergeSort (atMost (·.1.start))
  have fetched : ∀ pair ∈ pairs, result.diagnostics[pair.2]? = some pair.1 := fun pair member =>
    List.mem_zipIdx_iff_getElem?.mp (List.mem_mergeSort.mp member)
  have findings : pairs.map Prod.fst = result.sorted := by
    have mapped := List.map_mergeSort (l := result.diagnostics.zipIdx) (f := Prod.fst)
      (r := atMost (·.1.start)) (s := atMost Diagnostic.start) fun _ _ _ _ => rfl
    rwa [List.zipIdx_map_fst, ← agrees] at mapped
  have numbers : pairs.map Prod.snd = result.sortedIndices := by
    refine (congrArg (List.map Prod.snd) (mergeSort_congr fun left leftIn right rightIn => ?_)).symm
    exact compared left.1 (List.fst_mem_of_mem_zipIdx leftIn) right.1
      (List.fst_mem_of_mem_zipIdx rightIn)
  refine ⟨?_, ?_, agrees, ?_, ?_, ?_, ?_⟩
  · rw [agrees]
    exact List.mergeSort_perm _ _
  · rw [agrees]
    exact pairwise_mergeSort_atMost _ _
  · rw [← findings, ← numbers, List.map_map, List.map_map]
    exact List.map_congr_left fetched
  · have numbered : (pairs.map Prod.snd).Perm (result.diagnostics.zipIdx.map Prod.snd) :=
      (List.mergeSort_perm _ _).map Prod.snd
    rwa [numbers, List.zipIdx_map_snd, ← List.range_eq_range'] at numbered
  · rw [← numbers, List.pairwise_map]
    refine (pairwise_mergeSort_zipIdx Diagnostic.start _).imp_of_mem ?_
    intro left right leftIn rightIn ordered first isFirst second isSecond
    rw [fetched left leftIn] at isFirst
    rw [fetched right rightIn] at isSecond
    cases isFirst
    cases isSecond
    exact ordered
  · intro diagnostic member
    rw [placed diagnostic member]
    exact Position.line_column_ofOffset_le text diagnostic.start

end LintResult

/-! ### Results of checking a text -/

/-- Whatever rules are registered, the findings on a source text or on a unit are sorted by the
byte offsets at which they start, if the grammar has counted the text. -/
theorem Linter.lint_sortsByOffset {linter : Linter Rule} (built : linter.IsBuilt)
    (parser : Parser) :
    (∀ source dialect, (parser source dialect).root.IsCounted source.toList →
        (linter.lintSource parser source dialect).SortsByOffset) ∧
      ∀ unit, (parser unit.text unit.dialect).root.IsCounted unit.text.toList →
        (linter.lintUnit parser unit).SortsByOffset := by
  have placed : ∀ source dialect, (parser source dialect).root.IsCounted source.toList →
      ∀ diagnostic ∈ (linter.lintSource parser source dialect).diagnostics,
        diagnostic.place.position = Position.ofOffset source.toList diagnostic.start := by
    intro source dialect counted diagnostic found
    obtain ⟨node, inTree, place⟩ :=
      built.exists_place_of_mem_emit (List.mem_filter.mp found).1
    rw [Diagnostic.start, place, SourceTree.place_of_mem_nodes counted inTree]
    rfl
  exact ⟨fun source dialect counted =>
      LintResult.sortsByOffset_of_placed (placed source dialect counted),
    fun unit counted =>
      LintResult.sortsByOffset_of_placed (placed unit.text unit.dialect counted)⟩

namespace Sample

/-- A construction that is thrown at the start of a row, with a character of two bytes in its
message. -/
def throwIn (row start : Nat) : Concrete :=
  nodeIn row start "throw_statement" none start (start + 18) [
    nodeIn row start "new_expression" none (start + 6) (start + 17) [
      nodeIn row start "identifier" (some "constructor") (start + 10) (start + 11) [],
      nodeIn row start "arguments" (some "arguments") (start + 11) (start + 17) [
        nodeIn row start "string" none (start + 12) (start + 16) []]]]

/-- The tree of two lines, which end in a carriage return and a line feed. -/
def twoLines : Concrete :=
  node "program" none 0 49 [throwIn 0 0, throwIn 1 20,
    nodeIn 1 20 "throw_statement" none 39 49 [nodeIn 1 20 "string" none 45 48 []]]

/-- A rule that waits for the end of the tree, between two that do not. -/
def waiting : Linter Rule :=
  ((Linter.empty.add (.noThrowLiteral .defaults) .warn).add
    (.requireHardcodedErrorMessage .defaults) .error).add (.noThrowLiteral .defaults) .error

end Sample

/-- Both findings on the literal at the end are made before those on the repeated messages in
front of it. -/
theorem Linter.lint_sortsByOffset_sample :
    let result := Sample.waiting.lintSource (fun _ _ => ⟨false, Sample.twoLines⟩)
      "throw new A('é');\r\nthrow new A('é'); throw 'x';" .javascript
    (Sample.waiting.IsBuilt ∧ Sample.twoLines.IsCounted
        "throw new A('é');\r\nthrow new A('é'); throw 'x';".toList) ∧
      result.diagnostics.map (fun found => (found.start, found.place.position)) =
        [(45, ⟨2, 26⟩), (45, ⟨2, 26⟩), (12, ⟨1, 13⟩), (32, ⟨2, 13⟩)] ∧
      result.SortsByOffset ∧ result.sorted.map Diagnostic.start = [12, 32, 45, 45] := by
  intro result
  have built : Sample.waiting.IsBuilt := .add _ _ (.add _ _ (.add _ _ .empty))
  have counted : Sample.twoLines.IsCounted
      "throw new A('é');\r\nthrow new A('é'); throw 'x';".toList := by
    decide +kernel
  have made : result.diagnostics.map (fun found => (found.start, found.place.position)) =
      [(45, ⟨2, 26⟩), (45, ⟨2, 26⟩), (12, ⟨1, 13⟩), (32, ⟨2, 13⟩)] := by
    decide +kernel
  have sorts := (lint_sortsByOffset built fun _ _ => ⟨false, Sample.twoLines⟩).1
    "throw new A('é');\r\nthrow new A('é'); throw 'x';" .javascript counted
  have starts : (result.sorted.map Diagnostic.start).Perm [45, 45, 12, 32] := by
    have emitted : result.diagnostics.map Diagnostic.start = [45, 45, 12, 32] := by
      have numbers := congrArg (List.map Prod.fst) made
      rwa [List.map_map] at numbers
    rw [← emitted]
    exact sorts.perm.map Diagnostic.start
  refine ⟨⟨built, counted⟩, made, sorts, ?_⟩
  exact (starts.trans (by decide)).eq_of_pairwise (fun _ _ _ _ => Nat.le_antisymm)
    (List.pairwise_map.mpr sorts.ascending) (by decide)

end ErrorLint
