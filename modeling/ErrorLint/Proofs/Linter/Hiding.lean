/-
This file says which findings directives hide. A directive is read from a line that is taken
out of the text, and works on a line by its number; a finding has the line number of a node,
which a grammar has counted. The two meet in the number only. The main statement speaks of
neither count: a finding is hidden if the line that contains its first byte holds a directive
for its own line, or if the line directly before holds one for the next line. Lines end at
line feeds here, and what the reading does with carriage returns and with an empty line at
the end makes no difference to a directive.

Hiding takes findings out and does nothing else. In particular a finding that tells how often
a message is thrown counts the throws whose own findings are hidden.
-/

import ErrorLint.Proofs.Rule.Anchor
import ErrorLint.Proofs.Text.LineFeeds
import ErrorLint.Proofs.Text.Search
import ErrorLint.Proofs.Tree.Provenance

namespace ErrorLint

/-! ### A carriage return at the end of a line -/

namespace Directive

theorem notMem_markers :
    ∀ marker ∈ markers, '\r' ∉ marker.word.toList ∧ marker.word.toList ≠ [] := by
  decide

theorem locate_append_return (line : List Char) {among : List Marker}
    (words : ∀ marker ∈ among, '\r' ∉ marker.word.toList ∧ marker.word.toList ≠ []) :
    locate (line ++ ['\r']) among =
      (locate line among).map fun found => (found.1, found.2.1, found.2.2 ++ ['\r']) := by
  induction among with
  | nil => rfl
  | cons marker rest inductionHypothesis =>
    obtain ⟨absent, present⟩ := words marker List.mem_cons_self
    rw [locate, locate, Text.splitFirst?_append_singleton absent present]
    cases Text.splitFirst? marker.word.toList line with
    | none =>
      exact inductionHypothesis fun other later => words other (List.mem_cons_of_mem _ later)
    | some parts => rfl

theorem endsWord_append_return (after : List Char) :
    endsWord (after ++ ['\r']) = endsWord after := by
  cases after <;> rfl

theorem listed_append_return (after : List Char) : listed (after ++ ['\r']) = listed after := by
  have notComma : '\r' ≠ ',' := by decide
  have blank : Text.isBlank '\r' = true := rfl
  -- The carriage return is cut off with what follows the list, or it is trimmed.
  have cut : ∀ list : List Char,
      (Text.pieces ',' (Text.upTo ['-', '-'] (list ++ ['\r']))).map Text.trim =
        (Text.pieces ',' (Text.upTo ['-', '-'] list)).map Text.trim := by
    intro list
    rcases Text.upTo_append_singleton (by decide : '\r' ∉ ['-', '-']) (by decide) list with
      same | longer
    · rw [same]
    · rw [longer, Text.map_trim_pieces_append_singleton notComma blank]
  unfold listed
  dsimp only
  rcases Text.upTo_append_singleton (by decide : '\r' ∉ ['*', '/']) (by decide) after with
    same | longer
  · rw [same]
  · rw [longer, cut]

/-- A carriage return at the end of a line makes no difference to its directive. -/
theorem ofLine?_append_return (number : Nat) (line : List Char) :
    ofLine? number (line ++ ['\r']) = ofLine? number line := by
  unfold ofLine?
  rw [locate_append_return line notMem_markers]
  cases locate line markers with
  | none => rfl
  | some found =>
    obtain ⟨marker, before, after⟩ := found
    simp only [Option.map_some, Option.bind_eq_bind, Option.bind_some, endsWord_append_return,
      listed_append_return]

theorem ofLine?_stripReturn (number : Nat) (line : List Char) :
    ofLine? number (Text.stripReturn line) = ofLine? number line := by
  unfold Text.stripReturn
  split
  · rename_i ends
    obtain ⟨front, rfl⟩ := List.getLast?_eq_some_iff.mp ends
    rw [List.dropLast_concat, ofLine?_append_return]
  · rfl

/-! ### Directives by the pieces of a text -/

theorem mem_ofLines_iff {number : Nat} {lines : List (List Char)} {directive : Directive} :
    directive ∈ ofLines number lines ↔
      ∃ (index : Nat) (line : List Char), lines[index]? = some line ∧
        ofLine? (number + index) line = some directive := by
  induction lines generalizing number with
  | nil => simp [ofLines]
  | cons first rest inductionHypothesis =>
    rw [ofLines, List.mem_append, Option.mem_toList, inductionHypothesis]
    constructor
    · rintro (here | ⟨index, line, found, read⟩)
      · exact ⟨0, first, rfl, here⟩
      · refine ⟨index + 1, line, found, ?_⟩
        rwa [Nat.add_assoc, Nat.add_comm 1] at read
    · rintro ⟨index, line, found, read⟩
      cases index with
      | zero =>
        obtain rfl := Option.some.inj found
        exact Or.inl read
      | succ index =>
        refine Or.inr ⟨index, line, found, ?_⟩
        rwa [Nat.add_assoc, Nat.add_comm 1]

theorem ofLines_append (number : Nat) (left right : List (List Char)) :
    ofLines number (left ++ right) =
      ofLines number left ++ ofLines (number + left.length) right := by
  induction left generalizing number with
  | nil => rfl
  | cons line rest inductionHypothesis =>
    rw [List.cons_append, ofLines, inductionHypothesis, ofLines, List.append_assoc,
      List.length_cons, Nat.add_assoc, Nat.add_comm 1]

theorem ofLines_map_stripReturn (number : Nat) (lines : List (List Char)) :
    ofLines number (lines.map Text.stripReturn) = ofLines number lines := by
  induction lines generalizing number with
  | nil => rfl
  | cons line rest inductionHypothesis =>
    rw [List.map_cons, ofLines, inductionHypothesis, ofLine?_stripReturn, ofLines]

/-- The directives of a text are those of its pieces between line feeds. -/
theorem ofSource_eq (source : String) :
    ofSource source = ofLines 1 (Text.pieces '\n' source.toList) := by
  obtain ⟨front, last, split, taken⟩ := Text.exists_lines_eq source.toList
  rw [ofSource, taken, split, ofLines_append, ofLines_append, ofLines_map_stripReturn,
    List.length_map]
  split
  · rename_i empty
    rw [empty]
    rfl
  · rfl

/-- A line holds a directive for its own line or for the next one, and the directive covers
the rule. -/
def StandsOn (target : DirectiveTarget) (ruleId : String) (line : List Char) : Prop :=
  ∃ number directive, ofLine? number line = some directive ∧
    directive.appliesTo = targetLine target number ∧ directive.covers ruleId = true

/-- A line has a directive if its marker stands behind a comment opener and its word ends. -/
theorem ofLine?_eq_some_iff {number : Nat} {line : List Char} {directive : Directive} :
    ofLine? number line = some directive ↔
      ∃ marker before after, locate line markers = some (marker, before, after) ∧
        opensComment before = true ∧ endsWord after = true ∧
        directive = ⟨number, targetLine marker.target number, listed after⟩ := by
  constructor
  · intro read
    obtain ⟨⟨marker, before, after⟩, located, rest⟩ := Option.bind_eq_some_iff.mp read
    obtain ⟨_, guarded, made⟩ := Option.bind_eq_some_iff.mp rest
    have guards : (opensComment before && endsWord after) = true := by
      by_contra fails
      rw [guard, if_neg fails] at guarded
      cases guarded
    rw [Bool.and_eq_true] at guards
    exact ⟨marker, before, after, located, guards.1, guards.2, (Option.some.inj made).symm⟩
  · rintro ⟨marker, before, after, located, opens, ends, rfl⟩
    simp only [ofLine?, located, Option.bind_eq_bind, Option.bind_some, opens, ends]
    rfl

theorem exists_target_of_ofLine? {number : Nat} {line : List Char} {directive : Directive}
    (read : ofLine? number line = some directive) :
    ∃ target, directive.appliesTo = targetLine target number ∧
      ∀ other, ofLine? other line = some ⟨other, targetLine target other, directive.ruleIds⟩ := by
  obtain ⟨marker, before, after, located, opens, ends, rfl⟩ := ofLine?_eq_some_iff.mp read
  exact ⟨marker.target, rfl, fun other =>
    ofLine?_eq_some_iff.mpr ⟨marker, before, after, located, opens, ends, rfl⟩⟩

/-- Whether a line holds a directive does not depend on its number. -/
theorem standsOn_iff (number : Nat) {target : DirectiveTarget} {ruleId : String}
    {line : List Char} :
    StandsOn target ruleId line ↔ ∃ directive, ofLine? number line = some directive ∧
      directive.appliesTo = targetLine target number ∧ directive.covers ruleId = true := by
  refine ⟨?_, fun ⟨directive, read, rest⟩ => ⟨number, directive, read, rest⟩⟩
  rintro ⟨other, directive, read, applies, covers⟩
  obtain ⟨found, foundApplies, everywhere⟩ := exists_target_of_ofLine? read
  have same : found = target := by
    rw [applies] at foundApplies
    cases found <;> cases target <;> first | rfl | exact absurd foundApplies (by simp [targetLine])
  subst same
  exact ⟨_, everywhere number, rfl, covers⟩

end Directive

/-! ### Hidden findings -/

/-- A directive hides what a rule finds at a byte offset: the line with the offset holds one
for its own line, or the line before it holds one for the next line. -/
def HiddenAt (text : List Char) (offset : Nat) (ruleId : String) : Prop :=
  (∃ line : Text.Line text, line.Contains offset ∧
      Directive.StandsOn .sameLine ruleId line.content) ∨
    ∃ previous line : Text.Line text, previous.Precedes line ∧ line.Contains offset ∧
      Directive.StandsOn .nextLine ruleId previous.content

namespace Suppressions

theorem hides_iff {source : String} {number : Nat} {ruleId : String} :
    (scan source).hides number ruleId = true ↔
      ∃ (index : Nat) (line : List Char), (Text.pieces '\n' source.toList)[index]? = some line ∧
        ∃ directive, Directive.ofLine? (1 + index) line = some directive ∧
          directive.appliesTo = number ∧ directive.covers ruleId = true := by
  simp only [hides, scan, Directive.ofSource_eq, List.any_eq_true, Directive.mem_ofLines_iff,
    Bool.and_eq_true, decide_eq_true_eq]
  constructor
  · rintro ⟨directive, ⟨index, line, found, read⟩, applies⟩
    exact ⟨index, line, found, directive, read, applies⟩
  · rintro ⟨index, line, found, directive, read, applies⟩
    exact ⟨directive, ⟨index, line, found, read⟩, applies⟩

/-- Hiding by the number of a line is hiding by where the line stands. -/
theorem hides_iff_hiddenAt {source : String} {offset : Nat} {ruleId : String} :
    (scan source).hides (1 + Text.lineFeedsBefore source.toList offset) ruleId = true ↔
      HiddenAt source.toList offset ruleId := by
  rw [hides_iff]
  constructor
  · rintro ⟨index, content, found, directive, read, applies, covers⟩
    obtain ⟨line, contains⟩ := Text.Line.exists_contains source.toList offset
    rw [Text.Line.lineFeedsBefore_eq contains] at applies
    obtain ⟨target, targets, -⟩ := Directive.exists_target_of_ofLine? read
    rw [targets] at applies
    cases target with
    | sameLine =>
      have here : index = line.before.count '\n' := Nat.add_left_cancel applies
      rw [here, line.getElem?_pieces] at found
      refine Or.inl ⟨line, contains, _, directive, ?_, targets, covers⟩
      rw [Option.some.inj found]
      exact read
    | nextLine =>
      have before : index + 1 = line.before.count '\n' := by
        simp only [Directive.targetLine] at applies
        omega
      obtain ⟨previous, precedes⟩ := line.exists_precedes (by omega)
      have count := Text.Line.count_of_precedes precedes
      have here : index = previous.before.count '\n' := by omega
      rw [here, previous.getElem?_pieces] at found
      refine Or.inr ⟨previous, line, precedes, contains, _, directive, ?_, targets, covers⟩
      rw [Option.some.inj found]
      exact read
  · rintro (⟨line, contains, stands⟩ | ⟨previous, line, precedes, contains, stands⟩)
    · rw [Text.Line.lineFeedsBefore_eq contains]
      refine ⟨_, _, line.getElem?_pieces, ?_⟩
      exact (Directive.standsOn_iff _).mp stands
    · rw [Text.Line.lineFeedsBefore_eq contains, Text.Line.count_of_precedes precedes]
      refine ⟨_, _, previous.getElem?_pieces, ?_⟩
      exact (Directive.standsOn_iff _).mp stands

end Suppressions

instance (source : String) (offset : Nat) (ruleId : String) :
    Decidable (HiddenAt source.toList offset ruleId) :=
  decidable_of_iff _ Suppressions.hides_iff_hiddenAt

namespace SourceTree

/-- The lines of the nodes are counted by the line feeds before them. -/
def CountsLines (tree : SourceTree) : Prop :=
  ∀ node ∈ tree.nodes,
    node.place.position.line = 1 + Text.lineFeedsBefore tree.source.toList node.span.start

instance (tree : SourceTree) : Decidable tree.CountsLines :=
  inferInstanceAs (Decidable (∀ node ∈ tree.nodes, node.place.position.line = _))

/-- What is lowered from a counted tree counts its lines. -/
theorem countsLines_ofSource {parser : Parser} {source : String} {dialect : Dialect}
    (counted : (parser source dialect).root.IsCounted source.toList) :
    (ofSource parser source dialect).CountsLines := by
  intro node inTree
  rw [place_of_mem_nodes counted inTree]
  exact Position.line_ofOffset _ _

end SourceTree

namespace Linter

open RequireHardcodedErrorMessage

/-- On a tree whose lines are counted, a finding is hidden by where its line stands. -/
theorem IsBuilt.hides_iff_of_mem_emit {linter : Linter Rule} (built : linter.IsBuilt)
    {tree : SourceTree} (counted : tree.CountsLines) {diagnostic : Diagnostic}
    (member : diagnostic ∈ linter.emit tree) :
    (Suppressions.scan tree.source).hides diagnostic.line diagnostic.rule.name = true ↔
      HiddenAt tree.source.toList diagnostic.place.span.start diagnostic.rule.name := by
  obtain ⟨node, inTree, place⟩ := built.exists_place_of_mem_emit member
  have line : diagnostic.line =
      1 + Text.lineFeedsBefore tree.source.toList diagnostic.place.span.start := by
    rw [Diagnostic.line, place]
    exact counted node inTree
  rw [line, Suppressions.hides_iff_hiddenAt]

/-- A finding of the rule about repeated messages tells the number of all throws that count. -/
theorem IsBuilt.exists_throwCount_of_mem_emit {linter : Linter Rule} (built : linter.IsBuilt)
    {tree : SourceTree} {diagnostic : Diagnostic} (member : diagnostic ∈ linter.emit tree)
    (repeats : diagnostic.rule = .requireHardcodedErrorMessage) :
    ∃ options severity errorClass message,
      ⟨.requireHardcodedErrorMessage options, severity⟩ ∈ linter.activations ∧
      diagnostic.data.text? "errorClass" = some errorClass ∧
      diagnostic.data.text? "message" = some message ∧
      diagnostic.data.count? "count" = some (throwCount options tree errorClass message) := by
  rw [built.emit_eq] at member
  rcases List.mem_append.mp member with during | after
  · -- On the way the rule says nothing, and the other rules have other names.
    obtain ⟨node, -, found⟩ := List.mem_flatMap.mp during
    obtain ⟨⟨rule, severity⟩, -, found⟩ := List.mem_flatMap.mp found
    obtain ⟨memory, report, reported, rfl⟩ := Activation.exists_report_of_mem_findingsAt found
    cases rule <;> cases repeats
    cases reported
  · obtain ⟨⟨rule, severity⟩, active, closing⟩ := List.mem_flatMap.mp after
    obtain ⟨options, rfl, node, use, -, -, rfl⟩ :=
      Activation.exists_repetition_of_mem_closingFindings closing
    exact ⟨options, severity, use.errorClass, use.message, active, rfl, rfl, rfl⟩

/-- Of the findings on a tree whose lines are counted those are taken out whose line holds a
directive for the rule, or whose line before holds one for the next line. The others stay as
they are, in the order in which they are made, and the counts that they tell are those of the
whole tree. -/
theorem lintTree_hides_by_line {linter : Linter Rule} (built : linter.IsBuilt) {tree : SourceTree}
    (counted : tree.CountsLines) :
    linter.lintTree tree = (linter.emit tree).filter (fun diagnostic =>
        ¬ HiddenAt tree.source.toList diagnostic.place.span.start diagnostic.rule.name) ∧
      (∀ diagnostic ∈ linter.emit tree, diagnostic ∉ linter.lintTree tree ↔
        HiddenAt tree.source.toList diagnostic.place.span.start diagnostic.rule.name) ∧
      ∀ diagnostic ∈ linter.lintTree tree, diagnostic.rule = .requireHardcodedErrorMessage →
        ∃ options severity errorClass message,
          ⟨.requireHardcodedErrorMessage options, severity⟩ ∈ linter.activations ∧
          diagnostic.data.text? "errorClass" = some errorClass ∧
          diagnostic.data.text? "message" = some message ∧
          diagnostic.data.count? "count" = some (throwCount options tree errorClass message) := by
  have filtered : linter.lintTree tree = (linter.emit tree).filter (fun diagnostic =>
      ¬ HiddenAt tree.source.toList diagnostic.place.span.start diagnostic.rule.name) := by
    refine List.filter_congr fun diagnostic member => ?_
    rw [Bool.eq_iff_iff, Bool.not_eq_true', decide_eq_true_eq,
      ← built.hides_iff_of_mem_emit counted member, Bool.not_eq_true]
  refine ⟨filtered, fun diagnostic member => ?_, fun diagnostic member repeats => ?_⟩
  · rw [filtered, List.mem_filter, decide_eq_true_eq, not_and, not_not]
    exact ⟨fun hidden => hidden member, fun hidden _ => hidden⟩
  · exact built.exists_throwCount_of_mem_emit (List.mem_filter.mp member).1 repeats

end Linter

namespace Sample

/-- A message thrown twice, the first time below a directive. The lines end with a carriage
return and a line feed. -/
def throwBelowDirective : SourceTree where
  source := "// eslint-disable-next-line\r\nthrow new HttpError('b');\r\n" ++
    "throw new HttpError('b');"
  root := termOn 1 1 0 81 (.program [
    termOn 2 1 29 54 (.throwing (some (termOn 2 7 35 53 (.construction
      (termOn 2 11 39 48 (.identifier "HttpError"))
      [termOn 2 21 49 52 (.literal (.string "b"))])))),
    termOn 3 1 56 81 (.throwing (some (termOn 3 7 62 80 (.construction
      (termOn 3 11 66 75 (.identifier "HttpError"))
      [termOn 3 21 76 79 (.literal (.string "b"))]))))])
  hasErrors := false

/-- The linter with the rule about repeated messages. -/
def repetitionLinter : Linter Rule :=
  Linter.register [⟨.requireHardcodedErrorMessage .defaults, .warn⟩]

end Sample

/-- Both throws are found, the first is hidden, and the second still counts two. -/
theorem Linter.lintTree_hides_by_line_sample :
    Sample.throwBelowDirective.CountsLines ∧
      (Sample.repetitionLinter.emit Sample.throwBelowDirective).map (·.place.span.start) =
        [49, 76] ∧
      HiddenAt Sample.throwBelowDirective.source.toList 49 "require-hardcoded-error-message" ∧
      Sample.repetitionLinter.lintTree Sample.throwBelowDirective =
        (Sample.repetitionLinter.emit Sample.throwBelowDirective).filter (fun diagnostic =>
          ¬ HiddenAt Sample.throwBelowDirective.source.toList diagnostic.place.span.start
            diagnostic.rule.name) ∧
      (Sample.repetitionLinter.lintTree Sample.throwBelowDirective).map
        (fun found => (found.place.span.start, found.data.count? "count")) = [(76, some 2)] := by
  have counted : Sample.throwBelowDirective.CountsLines := by decide +kernel
  obtain ⟨filtered, -, -⟩ := lintTree_hides_by_line
    (isBuilt_register [⟨Rule.requireHardcodedErrorMessage .defaults, .warn⟩]) counted
  exact ⟨counted, by decide +kernel, by decide +kernel, filtered, by decide +kernel⟩

end ErrorLint
