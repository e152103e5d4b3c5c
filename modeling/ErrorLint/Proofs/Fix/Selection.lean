/-
This file proves that applying fixes is a simultaneous replacement. One pass over the
sorted fixes carries three things along -- the offset up to which the source is used,
the end of the fix applied last, and the text written so far -- and none of them is
part of what the pass is for. What it is for has two halves that know nothing of each
other: a greedy choice among the fixes, which never writes a text, and the replacement
of the chosen spans one at a time, from the last to the first, so that no replacement
moves a span that is still to be replaced.

The two halves meet in `weave`. A text that is cut at the chosen spans and woven with
their replacements is what the pass writes; woven with the spans' own texts it is the
source again. Both are the same recursion over the chosen fixes, so whatever relates a
span's text to its replacement lifts to the whole texts.
-/

import ErrorLint.Linter.Fixing
import ErrorLint.Proofs.Text.Cutting

namespace ErrorLint

/-! ### Sorting fixes -/

theorem Fix.le_iff {left right : Fix} :
    left.le right = true ↔
      left.span.start < right.span.start ∨
        left.span.start = right.span.start ∧ left.span.stop ≤ right.span.stop := by
  rw [Fix.le, Bool.or_eq_true, Bool.and_eq_true, decide_eq_true_eq, decide_eq_true_eq,
    decide_eq_true_eq]

theorem Fix.le_trans (first second third : Fix) (before : first.le second = true)
    (after : second.le third = true) : first.le third = true := by
  rw [Fix.le_iff] at before after ⊢
  omega

theorem Fix.le_total (first second : Fix) : (first.le second || second.le first) = true := by
  rw [Bool.or_eq_true, Fix.le_iff, Fix.le_iff]
  omega

/-- Sorting is stable: items that the order cannot tell apart stay in order. -/
theorem filter_mergeSort {α : Type} {le : α → α → Bool} {keep : α → Bool}
    (trans : ∀ first second third, le first second = true → le second third = true →
      le first third = true)
    (total : ∀ first second, (le first second || le second first) = true)
    (tied : ∀ first second, keep first = true → keep second = true → le first second = true)
    (items : List α) : (items.mergeSort le).filter keep = items.filter keep := by
  have ordered : (items.filter keep).Pairwise fun first second => le first second = true :=
    List.pairwise_of_forall_mem_list fun first firstIn second secondIn =>
      tied first second (List.mem_filter.mp firstIn).2 (List.mem_filter.mp secondIn).2
  have kept := (List.sublist_mergeSort trans total ordered List.filter_sublist).filter keep
  rw [List.filter_filter] at kept
  simp only [Bool.and_self] at kept
  refine (kept.eq_of_length ?_).symm
  exact ((List.mergeSort_perm items le).filter keep).length_eq.symm

/-- The fixes are sorted by start and then by end. -/
theorem Fix.pairwise_mergeSort (fixes : List Fix) :
    (fixes.mergeSort Fix.le).Pairwise fun left right =>
      left.span.start < right.span.start ∨
        left.span.start = right.span.start ∧ left.span.stop ≤ right.span.stop :=
  (List.pairwise_mergeSort Fix.le_trans Fix.le_total fixes).imp Fix.le_iff.mp

/-- The fixes of one span stay in order. -/
theorem Fix.filter_mergeSort_span (fixes : List Fix) (span : Span) :
    (fixes.mergeSort Fix.le).filter (·.span = span) = fixes.filter (·.span = span) := by
  refine filter_mergeSort Fix.le_trans Fix.le_total (fun first second ofFirst ofSecond => ?_) fixes
  rw [Fix.le_iff, of_decide_eq_true ofFirst, of_decide_eq_true ofSecond]
  exact .inr ⟨rfl, Nat.le_refl _⟩

/-! ### The greedy choice -/

/-- Whether a fix is taken when the fix taken last ends at the given offset: its span
falls on boundaries of the text, and starts strictly after that offset. -/
def Fix.isTaken (text : List Char) (lastStop : Option Nat) (fix : Fix) : Bool :=
  fix.isInBounds text && lastStop.all (· < fix.span.start)

/-- A fix with a valid span falls on boundaries. -/
theorem Fix.isInBounds_of_valid {text : List Char} {fix : Fix} (valid : fix.span.Valid text) :
    fix.isInBounds text = true := by
  rw [isInBounds, Bool.and_eq_true]
  exact ⟨valid.startBoundary, valid.stopBoundary⟩

namespace Splice

/-- Goes through fixes in their order and says of each whether it is taken. -/
def judge (text : List Char) : (lastStop : Option Nat) → List Fix → List (Fix × Bool)
  | _, [] => []
  | lastStop, fix :: rest =>
    if fix.isTaken text lastStop then (fix, true) :: judge text (some fix.span.stop) rest
    else (fix, false) :: judge text lastStop rest

/-- The fixes that were taken. -/
def taken (judged : List (Fix × Bool)) : List Fix := (judged.filter (·.2)).map (·.1)

/-- The fixes that are taken after one that ends at the given offset. -/
def select (text : List Char) (lastStop : Option Nat) (fixes : List Fix) : List Fix :=
  taken (judge text lastStop fixes)

/-- The fixes that are taken of all, in the order of their spans. -/
def chosen (text : List Char) (fixes : List Fix) : List Fix :=
  select text none (fixes.mergeSort Fix.le)

variable {text : List Char}

theorem select_cons_of_taken {lastStop : Option Nat} {fix : Fix} {rest : List Fix}
    (isTaken : fix.isTaken text lastStop = true) :
    select text lastStop (fix :: rest) = fix :: select text (some fix.span.stop) rest := by
  simp [select, judge, taken, isTaken]

theorem select_cons_of_not_taken {lastStop : Option Nat} {fix : Fix} {rest : List Fix}
    (notTaken : fix.isTaken text lastStop = false) :
    select text lastStop (fix :: rest) = select text lastStop rest := by
  simp [select, judge, taken, notTaken]

theorem map_fst_judge (lastStop : Option Nat) (fixes : List Fix) :
    (judge text lastStop fixes).map (·.1) = fixes := by
  induction fixes generalizing lastStop with
  | nil => rfl
  | cons fix rest inductionHypothesis =>
    rw [judge]
    split <;> rw [List.map_cons, inductionHypothesis]

/-- What is taken was there, and falls on boundaries. -/
theorem isInBounds_of_mem_select {lastStop : Option Nat} {fixes : List Fix} {fix : Fix}
    (member : fix ∈ select text lastStop fixes) : fix ∈ fixes ∧ fix.isInBounds text = true := by
  induction fixes generalizing lastStop with
  | nil => cases member
  | cons head rest inductionHypothesis =>
    cases isTaken : head.isTaken text lastStop with
    | true =>
      rw [select_cons_of_taken isTaken] at member
      rcases List.mem_cons.mp member with rfl | inRest
      · rw [Fix.isTaken, Bool.and_eq_true] at isTaken
        exact ⟨List.mem_cons_self, isTaken.1⟩
      · have found := inductionHypothesis inRest
        exact ⟨List.mem_cons_of_mem _ found.1, found.2⟩
    | false =>
      rw [select_cons_of_not_taken isTaken] at member
      have found := inductionHypothesis member
      exact ⟨List.mem_cons_of_mem _ found.1, found.2⟩

/-- Whatever is taken starts after the end of the fix taken last before. -/
theorem start_of_mem_select {stop : Nat} {fixes : List Fix} {fix : Fix}
    (ordered : ∀ fix ∈ fixes, fix.span.start ≤ fix.span.stop)
    (member : fix ∈ select text (some stop) fixes) : stop < fix.span.start := by
  induction fixes generalizing stop with
  | nil => cases member
  | cons head rest inductionHypothesis =>
    have orderedRest : ∀ fix ∈ rest, fix.span.start ≤ fix.span.stop :=
      fun fix inRest => ordered fix (List.mem_cons_of_mem _ inRest)
    cases isTaken : head.isTaken text (some stop) with
    | true =>
      rw [select_cons_of_taken isTaken] at member
      have after : stop < head.span.start := by
        simp only [Fix.isTaken, Bool.and_eq_true, Option.all_some, decide_eq_true_eq] at isTaken
        exact isTaken.2
      rcases List.mem_cons.mp member with rfl | inRest
      · exact after
      · have later := inductionHypothesis orderedRest inRest
        have inOrder := ordered head List.mem_cons_self
        omega
    | false =>
      rw [select_cons_of_not_taken isTaken] at member
      exact inductionHypothesis orderedRest member

/-- The fixes that are taken are apart: between two of them there is at least one byte. -/
theorem pairwise_select {lastStop : Option Nat} {fixes : List Fix}
    (ordered : ∀ fix ∈ fixes, fix.span.start ≤ fix.span.stop) :
    (select text lastStop fixes).Pairwise fun left right => left.span.stop < right.span.start := by
  induction fixes generalizing lastStop with
  | nil => exact List.Pairwise.nil
  | cons head rest inductionHypothesis =>
    have orderedRest : ∀ fix ∈ rest, fix.span.start ≤ fix.span.stop :=
      fun fix inRest => ordered fix (List.mem_cons_of_mem _ inRest)
    cases isTaken : head.isTaken text lastStop with
    | true =>
      rw [select_cons_of_taken isTaken]
      exact List.Pairwise.cons (fun fix inRest => start_of_mem_select orderedRest inRest)
        (inductionHypothesis orderedRest)
    | false =>
      rw [select_cons_of_not_taken isTaken]
      exact inductionHypothesis orderedRest

/-- A fix on boundaries is left out only if one that is taken before it, or the one taken
last before all of them, ends at or after its start. -/
theorem exists_taken_of_judged_false {lastStop : Option Nat} {fixes : List Fix}
    {before after : List (Fix × Bool)} {fix : Fix}
    (judged : judge text lastStop fixes = before ++ (fix, false) :: after)
    (inBounds : fix.isInBounds text = true) :
    (∃ earlier ∈ taken before, fix.span.start ≤ earlier.span.stop) ∨
      ∃ stop ∈ lastStop, fix.span.start ≤ stop := by
  induction fixes generalizing lastStop before with
  | nil => simp [judge] at judged
  | cons head rest inductionHypothesis =>
    rw [judge] at judged
    cases before with
    | nil =>
      split at judged
      · simp at judged
      · rename_i notTaken
        simp only [List.nil_append, List.cons.injEq, Prod.mk.injEq, and_true] at judged
        obtain ⟨rfl, -⟩ := judged
        cases lastStop with
        | none => simp [Fix.isTaken, inBounds] at notTaken
        | some stop =>
          refine Or.inr ⟨stop, rfl, ?_⟩
          simpa [Fix.isTaken, inBounds] using notTaken
    | cons first before =>
      split at judged
      · simp only [List.cons_append, List.cons.injEq] at judged
        obtain ⟨rfl, judgedRest⟩ := judged
        have headTaken : head ∈ taken ((head, true) :: before) := by simp [taken]
        rcases inductionHypothesis judgedRest with
          ⟨earlier, member, reaches⟩ | ⟨stop, same, reaches⟩
        · exact Or.inl ⟨earlier, by simp only [taken] at member ⊢; simp_all, reaches⟩
        · obtain rfl : head.span.stop = stop := by simpa using same
          exact Or.inl ⟨head, headTaken, reaches⟩
      · simp only [List.cons_append, List.cons.injEq] at judged
        obtain ⟨rfl, judgedRest⟩ := judged
        rcases inductionHypothesis judgedRest with ⟨earlier, member, reaches⟩ | last
        · exact Or.inl ⟨earlier, by simpa [taken] using member, reaches⟩
        · exact Or.inr last

/-- Something is taken as soon as anything falls on boundaries. -/
theorem select_ne_nil_iff {fixes : List Fix} :
    select text none fixes ≠ [] ↔ ∃ fix ∈ fixes, fix.isInBounds text = true := by
  constructor
  · intro some
    obtain ⟨fix, member⟩ := List.exists_mem_of_ne_nil _ some
    exact ⟨fix, isInBounds_of_mem_select member⟩
  · rintro ⟨fix, member, inBounds⟩
    induction fixes with
    | nil => cases member
    | cons head rest inductionHypothesis =>
      cases isTaken : head.isTaken text none with
      | true =>
        rw [select_cons_of_taken isTaken]
        exact List.cons_ne_nil _ _
      | false =>
        rw [select_cons_of_not_taken isTaken]
        rcases List.mem_cons.mp member with rfl | inRest
        · simp [Fix.isTaken, inBounds] at isTaken
        · exact inductionHypothesis inRest

/-! ### Weaving a text -/

/-- The text from an offset on, with the span of every given fix filled by some content. -/
def weave (text : List Char) (content : Fix → List Char) : (cursor : Nat) → List Fix → List Char
  | cursor, [] => Text.between text cursor (Text.byteLength text)
  | cursor, fix :: rest =>
    Text.between text cursor fix.span.start ++ content fix ++
      weave text content fix.span.stop rest

/-- The text of the span of a fix. -/
def covered (text : List Char) (fix : Fix) : List Char :=
  Text.between text fix.span.start fix.span.stop

/-- Fixes are laid out from an offset on if the offset is a boundary, and their spans are
valid and follow it and each other. -/
def LaidOut (text : List Char) : (cursor : Nat) → List Fix → Prop
  | cursor, [] => Text.isBoundary text cursor = true
  | cursor, fix :: rest =>
    Text.isBoundary text cursor = true ∧ cursor ≤ fix.span.start ∧ fix.span.Valid text ∧
      LaidOut text fix.span.stop rest

theorem LaidOut.isBoundary {cursor : Nat} {fixes : List Fix} (laidOut : LaidOut text cursor fixes) :
    Text.isBoundary text cursor = true := by
  cases fixes with
  | nil => exact laidOut
  | cons fix rest => exact laidOut.1

/-- What is taken is laid out, from the end of the fix taken last before. -/
theorem laidOut_select {lastStop : Option Nat} {fixes : List Fix}
    (ordered : ∀ fix ∈ fixes, fix.span.start ≤ fix.span.stop)
    (boundary : Text.isBoundary text (lastStop.getD 0) = true) :
    LaidOut text (lastStop.getD 0) (select text lastStop fixes) := by
  induction fixes generalizing lastStop with
  | nil => exact boundary
  | cons head rest inductionHypothesis =>
    have orderedRest : ∀ fix ∈ rest, fix.span.start ≤ fix.span.stop :=
      fun fix inRest => ordered fix (List.mem_cons_of_mem _ inRest)
    cases isTaken : head.isTaken text lastStop with
    | true =>
      rw [select_cons_of_taken isTaken]
      rw [Fix.isTaken, Fix.isInBounds, Bool.and_eq_true, Bool.and_eq_true] at isTaken
      obtain ⟨⟨startBoundary, stopBoundary⟩, after⟩ := isTaken
      have follows : lastStop.getD 0 ≤ head.span.start := by
        cases lastStop with
        | none => exact Nat.zero_le _
        | some stop =>
          rw [Option.all_some, decide_eq_true_eq] at after
          exact Nat.le_of_lt after
      exact ⟨boundary, follows, ⟨ordered head List.mem_cons_self, startBoundary, stopBoundary⟩,
        @inductionHypothesis (some head.span.stop) orderedRest stopBoundary⟩
    | false =>
      rw [select_cons_of_not_taken isTaken]
      exact inductionHypothesis orderedRest boundary

/-- Woven with the texts of the spans themselves, a text is what it was. -/
theorem weave_covered {cursor : Nat} {fixes : List Fix} (laidOut : LaidOut text cursor fixes) :
    weave text (covered text) cursor fixes =
      Text.between text cursor (Text.byteLength text) := by
  induction fixes generalizing cursor with
  | nil => rfl
  | cons fix rest inductionHypothesis =>
    obtain ⟨boundary, follows, valid, laidOutRest⟩ := laidOut
    have stopLe := Text.le_byteLength_of_isBoundary valid.stopBoundary
    rw [weave, inductionHypothesis laidOutRest, covered,
      Text.between_append_between boundary valid.startBoundary valid.stopBoundary follows
        valid.ordered,
      Text.between_append_between boundary valid.stopBoundary (Text.isBoundary_byteLength text)
        (Nat.le_trans follows valid.ordered) stopLe]

/-! ### Replacing from the last to the first -/

/-- The text with the span of a fix replaced. -/
def replace (fix : Fix) (text : List Char) : List Char :=
  Text.between text 0 fix.span.start ++ fix.replacement.toList ++
    Text.between text fix.span.stop (Text.byteLength text)

/-- The text with the spans of several fixes replaced, the last one first. -/
def replaceAll (text : List Char) (fixes : List Fix) : List Char := fixes.foldr replace text

/-- Replacing from the last to the first leaves everything in front of the fixes alone and
weaves the rest. -/
theorem replaceAll_eq {cursor : Nat} {fixes : List Fix} (laidOut : LaidOut text cursor fixes) :
    replaceAll text fixes =
      Text.between text 0 cursor ++ weave text (·.replacement.toList) cursor fixes := by
  induction fixes generalizing cursor with
  | nil =>
    have cursorLe := Text.le_byteLength_of_isBoundary laidOut
    rw [weave, Text.between_append_between (Text.isBoundary_zero text) laidOut
      (Text.isBoundary_byteLength text) (Nat.zero_le _) cursorLe, Text.between_zero_byteLength]
    rfl
  | cons fix rest inductionHypothesis =>
    obtain ⟨boundary, follows, valid, laidOutRest⟩ := laidOut
    -- Behind the fix all is replaced already; up to its end the text is still the source.
    have replaced := inductionHypothesis laidOutRest
    have front : Text.between text 0 fix.span.start ++ covered text fix =
        Text.between text 0 fix.span.stop :=
      Text.between_append_between (Text.isBoundary_zero text) valid.startBoundary
        valid.stopBoundary (Nat.zero_le _) valid.ordered
    have startLength : Text.byteLength (Text.between text 0 fix.span.start) = fix.span.start :=
      Text.byteLength_between (Text.isBoundary_zero text) valid.startBoundary (Nat.zero_le _)
    have stopLength : Text.byteLength (Text.between text 0 fix.span.stop) = fix.span.stop :=
      Text.byteLength_between (Text.isBoundary_zero text) valid.stopBoundary (Nat.zero_le _)
    have keptFront : Text.between (replaceAll text rest) 0 fix.span.start =
        Text.between text 0 fix.span.start := by
      have cut := Text.between_append_left (Text.between text 0 fix.span.start)
        (covered text fix ++ weave text (·.replacement.toList) fix.span.stop rest)
      rwa [← List.append_assoc, front, ← replaced, startLength] at cut
    have keptBack : Text.between (replaceAll text rest) fix.span.stop
        (Text.byteLength (replaceAll text rest)) =
          weave text (·.replacement.toList) fix.span.stop rest := by
      have cut := Text.between_append_right (Text.between text 0 fix.span.stop)
        (weave text (·.replacement.toList) fix.span.stop rest)
      rwa [← replaced, stopLength] at cut
    have gap : Text.between text 0 cursor ++ Text.between text cursor fix.span.start =
        Text.between text 0 fix.span.start :=
      Text.between_append_between (Text.isBoundary_zero text) boundary valid.startBoundary
        (Nat.zero_le _) follows
    show replace fix (replaceAll text rest) = _
    rw [replace, keptFront, keptBack, weave, ← gap]
    simp only [List.append_assoc]

/-! ### One pass -/

theorem step_of_taken {progress : Progress} {fix : Fix}
    (isTaken : fix.isTaken text progress.lastStop = true) :
    progress.step text fix =
      { written := progress.written ++ Text.between text progress.cursor fix.span.start ++
          fix.replacement.toList
        cursor := fix.span.stop
        lastStop := some fix.span.stop
        applied := progress.applied + 1
        skipped := progress.skipped } := by
  rw [Fix.isTaken, Bool.and_eq_true] at isTaken
  have free : progress.conflicts fix = false := by
    cases last : progress.lastStop with
    | none => simp [Progress.conflicts, last]
    | some stop => simpa [Progress.conflicts, last] using isTaken.2
  simp [Progress.step, free, isTaken.1, Text.between]

theorem step_of_not_taken {progress : Progress} {fix : Fix}
    (notTaken : fix.isTaken text progress.lastStop = false) :
    progress.step text fix = { progress with skipped := progress.skipped + 1 } := by
  have leftOut : (progress.conflicts fix || !fix.isInBounds text) = true := by
    rw [Fix.isTaken] at notTaken
    cases last : progress.lastStop with
    | none => simp_all [Progress.conflicts]
    | some stop =>
      simp only [Progress.conflicts, last, Option.any_some]
      cases inBounds : fix.isInBounds text <;> simp_all
  simp [Progress.step, leftOut]

/-- The text that a pass gives if no fix is left to come. -/
def Progress.finish (text : List Char) (progress : Progress) : List Char :=
  progress.written ++ Text.between text progress.cursor (Text.byteLength text)

/-- A pass appends to what was written before the source woven with the fixes that it
takes. -/
theorem finish_foldl_step (text : List Char) (progress : Progress) (fixes : List Fix) :
    (fixes.foldl (Progress.step text) progress).finish text =
      progress.written ++ weave text (·.replacement.toList) progress.cursor
        (select text progress.lastStop fixes) := by
  induction fixes generalizing progress with
  | nil => rfl
  | cons fix rest inductionHypothesis =>
    rw [List.foldl_cons, inductionHypothesis]
    cases isTaken : fix.isTaken text progress.lastStop with
    | true =>
      rw [step_of_taken isTaken, select_cons_of_taken isTaken, weave]
      simp only [List.append_assoc]
    | false => rw [step_of_not_taken isTaken, select_cons_of_not_taken isTaken]

theorem applied_foldl_step (text : List Char) (progress : Progress) (fixes : List Fix) :
    (fixes.foldl (Progress.step text) progress).applied =
      progress.applied + (select text progress.lastStop fixes).length := by
  induction fixes generalizing progress with
  | nil => rfl
  | cons fix rest inductionHypothesis =>
    rw [List.foldl_cons, inductionHypothesis]
    cases isTaken : fix.isTaken text progress.lastStop with
    | true =>
      rw [step_of_taken isTaken, select_cons_of_taken isTaken, List.length_cons]
      exact Nat.add_right_comm _ _ _
    | false => rw [step_of_not_taken isTaken, select_cons_of_not_taken isTaken]

/-- Every fix is counted once. -/
theorem applied_add_skipped_foldl_step (text : List Char) (progress : Progress) (fixes : List Fix) :
    (fixes.foldl (Progress.step text) progress).applied +
        (fixes.foldl (Progress.step text) progress).skipped =
      progress.applied + progress.skipped + fixes.length := by
  induction fixes generalizing progress with
  | nil => rfl
  | cons fix rest inductionHypothesis =>
    rw [List.foldl_cons, List.length_cons, inductionHypothesis]
    cases isTaken : fix.isTaken text progress.lastStop with
    | true =>
      rw [step_of_taken isTaken]
      dsimp only
      omega
    | false =>
      rw [step_of_not_taken isTaken]
      dsimp only
      omega

variable {source : String} {fixes : List Fix}

/-- The output of a pass is the source woven with the replacements of the chosen fixes. -/
theorem output_ofFixes :
    (ofFixes source fixes).output.toList =
      weave source.toList (·.replacement.toList) 0 (chosen source.toList fixes) := by
  rw [ofFixes, String.toList_ofList]
  exact finish_foldl_step source.toList Progress.initial (fixes.mergeSort Fix.le)

theorem applied_ofFixes :
    (ofFixes source fixes).applied = (chosen source.toList fixes).length := by
  have counted := applied_foldl_step source.toList Progress.initial
    (fixes.mergeSort Fix.le)
  rwa [show Progress.initial.applied = 0 from rfl, Nat.zero_add] at counted

theorem applied_add_skipped_ofFixes :
    (ofFixes source fixes).applied + (ofFixes source fixes).skipped = fixes.length := by
  have counted := applied_add_skipped_foldl_step source.toList Progress.initial
    (fixes.mergeSort Fix.le)
  rwa [List.length_mergeSort, show Progress.initial.applied + Progress.initial.skipped = 0 from rfl,
    Nat.zero_add] at counted

/-- The fixes that a pass chooses are laid out in the source. -/
theorem laidOut_chosen (ordered : ∀ fix ∈ fixes, fix.span.start ≤ fix.span.stop) :
    LaidOut source.toList 0 (chosen source.toList fixes) :=
  @laidOut_select source.toList none _
    (fun fix member => ordered fix (List.mem_mergeSort.mp member)) (Text.isBoundary_zero _)

/-- The output of a pass is the source with the chosen fixes replaced from the last to the
first. -/
theorem output_eq_replaceAll (ordered : ∀ fix ∈ fixes, fix.span.start ≤ fix.span.stop) :
    (ofFixes source fixes).output.toList =
      replaceAll source.toList (chosen source.toList fixes) := by
  rw [output_ofFixes, replaceAll_eq (laidOut_chosen ordered),
    show Text.between source.toList 0 0 = [] from Text.between_append_left [] source.toList,
    List.nil_append]

/-- A pass changes the text exactly if some fix falls on boundaries. -/
theorem applied_ofFixes_pos_iff :
    0 < (ofFixes source fixes).applied ↔ ∃ fix ∈ fixes, fix.isInBounds source.toList = true := by
  rw [applied_ofFixes, List.length_pos_iff, chosen, select_ne_nil_iff]
  simp only [List.mem_mergeSort]

end Splice

/-! ### Applying the fixes of findings -/

/-- The fixes of some findings are sorted by start and then by end, and those of one span stay
in order. Applying them replaces the greedily chosen spans, one at a time from the last to
the first: what stands outside of them is woven into the output as it is woven into the
source. Every fix is counted as applied or as skipped; the chosen spans
neither overlap nor touch; a fix on boundaries that is left out starts no later than the
end of one chosen before it; and something is applied exactly if some fix falls on
boundaries. -/
theorem Linter.applyFixes_replaces_greedy_choice (source : String) (diagnostics : List Diagnostic)
    (ordered : ∀ diagnostic ∈ diagnostics, ∀ fix ∈ diagnostic.fix,
      fix.span.start ≤ fix.span.stop) :
    let text := source.toList
    let fixes := diagnostics.filterMap (·.fix)
    let sorted := fixes.mergeSort Fix.le
    let judged := Splice.judge text none sorted
    let chosen := Splice.taken judged
    let splice := Linter.applyFixes source diagnostics
    (sorted.Perm fixes ∧
        sorted.Pairwise (fun left right => left.span.start < right.span.start ∨
          left.span.start = right.span.start ∧ left.span.stop ≤ right.span.stop) ∧
        ∀ span, sorted.filter (·.span = span) = fixes.filter (·.span = span)) ∧
      splice.output.toList = Splice.replaceAll text chosen ∧
      (splice.output.toList = Splice.weave text (·.replacement.toList) 0 chosen ∧
        text = Splice.weave text (Splice.covered text) 0 chosen) ∧
      judged.map (·.1) = sorted ∧
      splice.applied = chosen.length ∧
      splice.applied + splice.skipped = fixes.length ∧
      chosen.Pairwise (fun left right => left.span.stop < right.span.start) ∧
      (∀ before fix after, judged = before ++ (fix, false) :: after →
        fix.isInBounds text = true →
          ∃ earlier ∈ Splice.taken before, fix.span.start ≤ earlier.span.stop) ∧
      (0 < splice.applied ↔ ∃ fix ∈ fixes, fix.isInBounds text = true) := by
  intro text fixes sorted judged chosen splice
  have orderedFixes : ∀ fix ∈ fixes, fix.span.start ≤ fix.span.stop := by
    intro fix member
    obtain ⟨diagnostic, found, hasFix⟩ := List.mem_filterMap.mp member
    exact ordered diagnostic found fix hasFix
  have laidOut : Splice.LaidOut text 0 chosen := Splice.laidOut_chosen orderedFixes
  have woven : splice.output.toList = Splice.weave text (·.replacement.toList) 0 chosen :=
    Splice.output_ofFixes
  refine ⟨⟨List.mergeSort_perm fixes Fix.le, Fix.pairwise_mergeSort fixes,
    Fix.filter_mergeSort_span fixes⟩, Splice.output_eq_replaceAll orderedFixes, ⟨woven, ?_⟩,
    Splice.map_fst_judge none _,
    Splice.applied_ofFixes, Splice.applied_add_skipped_ofFixes, ?_, ?_,
    Splice.applied_ofFixes_pos_iff⟩
  · rw [Splice.weave_covered laidOut, Text.between_zero_byteLength]
  · exact Splice.pairwise_select fun fix member =>
      orderedFixes fix (List.mem_mergeSort.mp member)
  · intro before fix after split inBounds
    rcases Splice.exists_taken_of_judged_false split inBounds with found | ⟨stop, last, _⟩
    · exact found
    · cases last

/-- Four fixes on a text with a character of two bytes, and not in the order of their spans. One
of them falls inside the character, and one touches a chosen one. -/
theorem Linter.applyFixes_replaces_greedy_choice_of_touching :
    let finding : Nat × Nat × String → Diagnostic := fun (start, stop, replacement) =>
      { rule := .noThrowLiteral, severity := .error, messageId := "literal", message := ""
        data := MessageData.empty, place := default
        fix := some ⟨⟨start, stop⟩, replacement⟩ }
    let diagnostics := [(5, 6, "X"), (3, 4, "z"), (1, 3, "yy"), (2, 2, "w")].map finding
    let splice := Linter.applyFixes "aéb;cd" diagnostics
    (∀ diagnostic ∈ diagnostics, ∀ fix ∈ diagnostic.fix, fix.span.start ≤ fix.span.stop) ∧
      splice.output.toList = "ayyb;Xd".toList ∧
      splice.applied = 2 ∧
      splice.applied + splice.skipped = 4 := by
  intro finding diagnostics splice
  have ordered : ∀ diagnostic ∈ diagnostics, ∀ fix ∈ diagnostic.fix,
      fix.span.start ≤ fix.span.stop := by decide
  have sorted : (diagnostics.filterMap (·.fix)).mergeSort Fix.le =
      [⟨⟨1, 3⟩, "yy"⟩, ⟨⟨2, 2⟩, "w"⟩, ⟨⟨3, 4⟩, "z"⟩, ⟨⟨5, 6⟩, "X"⟩] := by
    simp [diagnostics, finding, List.mergeSort, List.MergeSort.Internal.splitInTwo, Fix.le]
  have chosen : Splice.taken (Splice.judge "aéb;cd".toList none
      ((diagnostics.filterMap (·.fix)).mergeSort Fix.le)) =
        [⟨⟨1, 3⟩, "yy"⟩, ⟨⟨5, 6⟩, "X"⟩] := by
    rw [sorted]
    decide
  obtain ⟨-, replaced, -, -, applied, counted, -⟩ :=
    applyFixes_replaces_greedy_choice "aéb;cd" diagnostics ordered
  rw [chosen] at replaced applied
  refine ⟨ordered, ?_, applied, counted⟩
  rw [replaced]
  decide

end ErrorLint
