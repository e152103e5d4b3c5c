/-
This file says how a directive is written so that it is read as it was meant. Reading cuts a
line many times: at the first marker, at what closes a comment, at a double hyphen, at commas
and at blanks. Writing puts the same marks down: a comment is opened, a marker follows, then
the ids with commas between them, and a block comment is closed. An id may contain anything
that is no mark itself, and the code around the comment may be anything without a marker.
Then none of the cuts goes through an id, and the directive has the ids that were written.

A directive that is read in this way hides the rules that it names on its line: all of them
if it names none, and otherwise those whose id is written, by itself or behind a slash.
-/

import ErrorLint.Proofs.Linter.Hiding

namespace ErrorLint.Directive

/-! ### Writing a directive -/

/-- How a comment is opened and what follows its text. -/
inductive CommentStyle where
  /-- The comment reaches to the end of the line. -/
  | line
  /-- The comment is closed, and code follows. -/
  | block (code : List Char)

namespace CommentStyle

def opener : CommentStyle → List Char
  | line => ['/', '/']
  | block _ => ['/', '*']

def ending : CommentStyle → List Char
  | line => []
  | block code => ' ' :: (['*', '/'] ++ code)

end CommentStyle

/-- A line with a directive: the code before the comment, and what the comment says. -/
structure Comment where
  code : List Char
  style : CommentStyle
  marker : Marker
  ruleIds : List String

/-- Ids as they stand behind a marker. -/
def enumeration (ids : List String) : List Char :=
  ' ' :: [',', ' '].intercalate (ids.map String.toList)

/-- An id that is no mark of the format and has none in it. -/
structure IsPlainId (id : String) : Prop where
  nonempty : id ≠ ""
  trimmed : Text.trim id.toList = id.toList
  noComma : ',' ∉ id.toList
  noDescription : ¬['-', '-'] <:+: id.toList
  noClosing : ¬['*', '/'] <:+: id.toList

instance (id : String) : Decidable (IsPlainId id) :=
  decidable_of_iff (id ≠ "" ∧ Text.trim id.toList = id.toList ∧ ',' ∉ id.toList ∧
      ¬['-', '-'] <:+: id.toList ∧ ¬['*', '/'] <:+: id.toList)
    ⟨fun ⟨nonempty, trimmed, noComma, noDescription, noClosing⟩ =>
      ⟨nonempty, trimmed, noComma, noDescription, noClosing⟩,
    fun plain => ⟨plain.nonempty, plain.trimmed, plain.noComma, plain.noDescription,
      plain.noClosing⟩⟩

namespace Comment

/-- What stands before the marker. -/
def front (comment : Comment) : List Char := comment.code ++ comment.style.opener ++ [' ']

/-- What stands behind the marker. -/
def back (comment : Comment) : List Char :=
  enumeration comment.ruleIds ++ comment.style.ending

/-- The line as it is written. -/
def text (comment : Comment) : List Char :=
  comment.front ++ comment.marker.word.toList ++ comment.back

/-- The ids are plain, and no marker is on the line but the one that is meant. -/
structure IsReadable (comment : Comment) : Prop where
  isMarker : comment.marker ∈ markers
  plain : ∀ id ∈ comment.ruleIds, IsPlainId id
  lone : ∀ other ∈ markers, ∀ front back,
    comment.text = front ++ other.word.toList ++ back → front = comment.front

/-- Where a word may occur can be found out by trying all places. -/
theorem occurs_only_iff {word text before : List Char} :
    (∀ index ∈ List.range (text.length + 1), word <+: text.drop index →
        text.take index = before) ↔
      ∀ front back, text = front ++ word ++ back → front = before := by
  constructor
  · rintro only front back rfl
    rw [List.append_assoc] at only
    have bound : front.length < (front ++ (word ++ back)).length + 1 := by
      rw [List.length_append]
      omega
    have here := only front.length (List.mem_range.mpr bound)
    rw [List.drop_left, List.take_left] at here
    exact here (List.prefix_append word back)
  · rintro only index - ⟨back, starts⟩
    refine only (text.take index) back ?_
    rw [List.append_assoc, starts, List.take_append_drop]

instance (comment : Comment) : Decidable comment.IsReadable :=
  decidable_of_iff (comment.marker ∈ markers ∧ (∀ id ∈ comment.ruleIds, IsPlainId id) ∧
      ∀ other ∈ markers, ∀ index ∈ List.range (comment.text.length + 1),
        other.word.toList <+: comment.text.drop index → comment.text.take index = comment.front)
    ⟨fun ⟨isMarker, plain, lone⟩ => ⟨isMarker, plain, fun other listed =>
      occurs_only_iff.mp (lone other listed)⟩,
    fun readable => ⟨readable.isMarker, readable.plain, fun other listed =>
      occurs_only_iff.mpr (readable.lone other listed)⟩⟩

end Comment

/-! ### Reading the ids -/

theorem enumeration_cons_cons (first second : String) (rest : List String) :
    enumeration (first :: second :: rest) =
      (' ' :: first.toList) ++ ',' :: enumeration (second :: rest) := by
  rw [enumeration, List.map_cons, List.map_cons, List.intercalate_cons_cons, List.append_assoc]
  rfl

/-- What is in none of the ids, and has neither a comma nor a blank, is not in the list. -/
theorem not_infix_enumeration {needle : List Char} (present : needle ≠ [])
    (noComma : ',' ∉ needle) (noBlank : ' ' ∉ needle) {ids : List String}
    (apart : ∀ id ∈ ids, ¬needle <:+: id.toList) : ¬needle <:+: enumeration ids := by
  have behindBlank : ∀ text, ¬needle <:+: text → ¬needle <:+: ' ' :: text := by
    intro text outside inside
    rcases (Text.infix_append_cons_iff noBlank present [] text).mp inside with empty | inText
    · exact present (List.infix_nil.mp empty)
    · exact outside inText
  induction ids with
  | nil => exact behindBlank [] fun inside => present (List.infix_nil.mp inside)
  | cons first rest inductionHypothesis =>
    have apartFirst := behindBlank _ (apart first List.mem_cons_self)
    cases rest with
    | nil =>
      rw [enumeration, List.map_singleton, List.intercalate_singleton]
      exact apartFirst
    | cons second others =>
      rw [enumeration_cons_cons, Text.infix_append_cons_iff noComma present, not_or]
      exact ⟨apartFirst,
        inductionHypothesis fun id later => apart id (List.mem_cons_of_mem _ later)⟩

theorem pieces_enumeration {ids : List String} (present : ids ≠ [])
    (noComma : ∀ id ∈ ids, ',' ∉ id.toList) :
    Text.pieces ',' (enumeration ids) = ids.map fun id => ' ' :: id.toList := by
  have whole : ∀ id : String, ',' ∉ id.toList →
      Text.pieces ',' (' ' :: id.toList) = [' ' :: id.toList] := by
    intro id absent
    refine Text.pieces_of_notMem fun member => ?_
    rcases List.mem_cons.mp member with blank | inId
    · exact absurd blank (by decide)
    · exact absent inId
  induction ids with
  | nil => exact absurd rfl present
  | cons first rest inductionHypothesis =>
    have wholeFirst := whole first (noComma first List.mem_cons_self)
    cases rest with
    | nil =>
      rw [enumeration, List.map_singleton, List.intercalate_singleton, wholeFirst]
      rfl
    | cons second others =>
      rw [enumeration_cons_cons, Text.pieces_append_cons, wholeFirst,
        inductionHypothesis (List.cons_ne_nil _ _) fun id later =>
          noComma id (List.mem_cons_of_mem _ later)]
      rfl

/-- The ids are what is left of the pieces without their blanks. -/
theorem trimmed_enumeration {ids : List String} (plain : ∀ id ∈ ids, IsPlainId id) :
    (((Text.pieces ',' (enumeration ids)).map Text.trim).filter (!·.isEmpty)).map String.ofList =
      ids := by
  by_cases empty : ids = []
  · rw [empty]
    rfl
  · rw [pieces_enumeration empty fun id member => (plain id member).noComma, List.map_map]
    have trimmed : ids.map (Text.trim ∘ fun id => ' ' :: id.toList) = ids.map String.toList := by
      refine List.map_congr_left fun id member => ?_
      rw [Function.comp_apply, Text.trim_cons rfl, (plain id member).trimmed]
    have kept : (ids.map String.toList).filter (!·.isEmpty) = ids.map String.toList := by
      refine List.filter_eq_self.mpr fun piece member => ?_
      obtain ⟨id, inIds, rfl⟩ := List.mem_map.mp member
      have nonempty := (plain id inIds).nonempty
      simpa using nonempty
    rw [trimmed, kept, List.map_map]
    refine (List.map_congr_left fun id _ => ?_).trans (List.map_id ids)
    exact String.ofList_toList

theorem listed_enumeration {ids : List String} (plain : ∀ id ∈ ids, IsPlainId id)
    (style : CommentStyle) : listed (enumeration ids ++ style.ending) = ids := by
  have notClosed : ¬['*', '/'] <:+: enumeration ids :=
    not_infix_enumeration (by decide) (by decide) (by decide) fun id member =>
      (plain id member).noClosing
  have notDescribed : ¬['-', '-'] <:+: enumeration ids :=
    not_infix_enumeration (by decide) (by decide) (by decide) fun id member =>
      (plain id member).noDescription
  unfold listed
  dsimp only
  cases style with
  | line =>
    rw [CommentStyle.ending, List.append_nil, Text.upTo_of_not_infix notClosed,
      Text.upTo_of_not_infix notDescribed, trimmed_enumeration plain]
  | block code =>
    have blankAbsent : ' ' ∉ ['*', '/'] := by decide
    have notDescribedEither : ¬['-', '-'] <:+: enumeration ids ++ [' '] := by
      rw [Text.infix_append_cons_iff (by decide) (by decide), not_or]
      exact ⟨notDescribed, by decide⟩
    rw [CommentStyle.ending, Text.upTo_append_cons blankAbsent notClosed,
      Text.upTo_of_not_infix notDescribedEither,
      Text.map_trim_pieces_append_singleton (by decide) rfl, trimmed_enumeration plain]

/-! ### Reading the line -/

theorem eq_of_words_match :
    ∀ first ∈ markers, ∀ second ∈ markers, first.word.toList <+: second.word.toList →
      first = second := by
  decide

/-- The marker that is found is the only one on the line. -/
theorem locate_of_only {line before after : List Char} {marker : Marker} {among : List Marker}
    (isAmong : marker ∈ among)
    (found : Text.splitFirst? marker.word.toList line = some (before, after))
    (others : ∀ other ∈ among, other ≠ marker → Text.splitFirst? other.word.toList line = none) :
    locate line among = some (marker, before, after) := by
  induction among with
  | nil => cases isAmong
  | cons first rest inductionHypothesis =>
    by_cases same : first = marker
    · rw [locate, same, found]
    · have later := (List.mem_cons.mp isAmong).resolve_left (Ne.symm same)
      rw [locate, others first List.mem_cons_self same]
      exact inductionHypothesis later fun other inRest =>
        others other (List.mem_cons_of_mem _ inRest)

namespace Comment

variable {comment : Comment}

theorem IsReadable.locate_text (readable : comment.IsReadable) :
    locate comment.text markers = some (comment.marker, comment.front, comment.back) := by
  refine locate_of_only readable.isMarker ?_ fun other isMarker different => ?_
  · refine Text.splitFirst?_of_first fun front back same => ?_
    have here := readable.lone comment.marker readable.isMarker front back same
    exact Nat.le_of_eq (congrArg List.length here.symm)
  · refine Text.splitFirst?_eq_none_iff.mpr ?_
    rintro ⟨front, back, same⟩
    have here := readable.lone other isMarker front back same.symm
    -- Two markers at one place would be one.
    rw [here, text, List.append_assoc, List.append_assoc, List.append_cancel_left_eq] at same
    rcases List.prefix_or_prefix_of_prefix (List.prefix_append other.word.toList back)
      (same ▸ List.prefix_append comment.marker.word.toList comment.back) with short | long
    · exact different (eq_of_words_match other isMarker comment.marker readable.isMarker short)
    · exact different
        (eq_of_words_match comment.marker readable.isMarker other isMarker long).symm

theorem opensComment_front : opensComment comment.front = true := by
  have opened : comment.style.opener <:+: comment.front := List.infix_append _ _ _
  rw [opensComment, Bool.or_eq_true, Text.contains_iff_infix, Text.contains_iff_infix]
  cases style : comment.style with
  | line => exact Or.inl (by rwa [style] at opened)
  | block code => exact Or.inr (by rwa [style] at opened)

theorem IsReadable.ofLine?_text (readable : comment.IsReadable) (number : Nat) :
    ofLine? number comment.text =
      some ⟨number, targetLine comment.marker.target number, comment.ruleIds⟩ := by
  have ends : endsWord comment.back = true := rfl
  have read : listed comment.back = comment.ruleIds :=
    listed_enumeration readable.plain comment.style
  rw [← read]
  exact ofLine?_eq_some_iff.mpr
    ⟨comment.marker, _, _, readable.locate_text, opensComment_front, ends, rfl⟩

end Comment

/-! ### The directives of a line -/

theorem line_of_ofLine? {number : Nat} {line : List Char} {directive : Directive}
    (read : ofLine? number line = some directive) : directive.line = number := by
  obtain ⟨_, -, everywhere⟩ := exists_target_of_ofLine? read
  rw [everywhere number] at read
  exact (congrArg Directive.line (Option.some.inj read)).symm

/-- The directives with the number of a line are those that are read from it. -/
theorem filter_line_ofLines (first index : Nat) (lines : List (List Char)) :
    (ofLines first lines).filter (·.line = first + index) =
      (lines[index]?.bind (ofLine? (first + index))).toList := by
  induction lines generalizing first index with
  | nil => rfl
  | cons line rest inductionHypothesis =>
    rw [ofLines, List.filter_append]
    cases index with
    | zero =>
      have here : (ofLine? first line).toList.filter (·.line = first + 0) =
          (ofLine? first line).toList := by
        refine List.filter_eq_self.mpr fun directive member => decide_eq_true ?_
        exact line_of_ofLine? (Option.mem_toList.mp member)
      have later : (ofLines (first + 1) rest).filter (·.line = first + 0) = [] := by
        refine List.filter_eq_nil_iff.mpr fun directive member => ?_
        obtain ⟨further, _, -, read⟩ := mem_ofLines_iff.mp member
        have number := line_of_ofLine? read
        rw [decide_eq_true_eq]
        omega
      rw [here, later, List.append_nil]
      rfl
    | succ index =>
      have here : (ofLine? first line).toList.filter (·.line = first + (index + 1)) = [] := by
        refine List.filter_eq_nil_iff.mpr fun directive member => ?_
        have number := line_of_ofLine? (Option.mem_toList.mp member)
        rw [decide_eq_true_eq]
        omega
      have shifted : first + (index + 1) = first + 1 + index := by omega
      rw [here, List.nil_append, shifted, inductionHypothesis]
      rfl

theorem filter_line_ofSource {source : String} (line : Text.Line source.toList) :
    (ofSource source).filter (·.line = 1 + line.before.count '\n') =
      (ofLine? (1 + line.before.count '\n') line.content).toList := by
  rw [ofSource_eq, filter_line_ofLines, line.getElem?_pieces]
  rfl

/-! ### The rules that are meant -/

/-- An id that is written means a rule: it is the id of the rule, or ends in it behind its last
slash. -/
def Means (written ruleId : String) : Prop :=
  written = ruleId ∨ '/' ∉ ruleId.toList ∧ ∃ plugin, written = plugin ++ "/" ++ ruleId

theorem names_iff {written ruleId : String} :
    names written ruleId = true ↔ Means written ruleId := by
  rw [names, Bool.or_eq_true, decide_eq_true_eq, decide_eq_true_eq, Text.afterLast?_eq_some_iff]
  refine or_congr_right (and_congr_right fun _ => ?_)
  constructor
  · rintro ⟨front, joined⟩
    refine ⟨String.ofList front, String.toList_inj.mp ?_⟩
    rw [joined, String.toList_append, String.toList_append, String.toList_ofList,
      List.append_assoc]
    rfl
  · rintro ⟨plugin, rfl⟩
    refine ⟨plugin.toList, ?_⟩
    rw [String.toList_append, String.toList_append, List.append_assoc]
    rfl

theorem covers_iff {directive : Directive} {ruleId : String} :
    directive.covers ruleId = true ↔
      directive.ruleIds = [] ∨ ∃ written ∈ directive.ruleIds, Means written ruleId := by
  rw [covers, Bool.or_eq_true, List.isEmpty_iff, List.any_eq_true]
  simp only [names_iff]

/-- A line on which a directive is written, with the end of line that its text gives it, has
this directive and no other one, with the ids as they are written. On the line where it works
it hides the rules that the ids mean, or all rules if there are none; whatever else is hidden
there is hidden by directives of other lines. -/
theorem ofSource_comment {source : String} (line : Text.Line source.toList) {comment : Comment}
    (readable : comment.IsReadable) (spelled : Text.stripReturn line.content = comment.text) :
    let number := 1 + line.before.count '\n'
    let target := targetLine comment.marker.target number
    (ofSource source).filter (·.line = number) = [⟨number, target, comment.ruleIds⟩] ∧
      ∀ ruleId, (Suppressions.scan source).hides target ruleId = true ↔
        (comment.ruleIds = [] ∨ ∃ written ∈ comment.ruleIds, Means written ruleId) ∨
          ∃ other ∈ ofSource source, other.line ≠ number ∧ other.appliesTo = target ∧
            other.covers ruleId = true := by
  intro number target
  have own : (ofSource source).filter (·.line = number) = [⟨number, target, comment.ruleIds⟩] := by
    rw [filter_line_ofSource, ← ofLine?_stripReturn, spelled, readable.ofLine?_text]
    rfl
  refine ⟨own, fun ruleId => ?_⟩
  have mem_own : ∀ directive, directive ∈ ofSource source ∧ directive.line = number ↔
      directive = ⟨number, target, comment.ruleIds⟩ := by
    intro directive
    have both : directive ∈ (ofSource source).filter (·.line = number) ↔ _ := List.mem_filter
    rw [own, List.mem_singleton, decide_eq_true_eq] at both
    exact both.symm
  simp only [Suppressions.hides, Suppressions.scan, List.any_eq_true, Bool.and_eq_true,
    decide_eq_true_eq]
  constructor
  · rintro ⟨directive, member, applies, covers⟩
    by_cases here : directive.line = number
    · obtain rfl := (mem_own directive).mp ⟨member, here⟩
      exact Or.inl (covers_iff.mp covers)
    · exact Or.inr ⟨directive, member, here, applies, covers⟩
  · rintro (meant | ⟨other, member, -, applies, covers⟩)
    · exact ⟨⟨number, target, comment.ruleIds⟩, ((mem_own _).mpr rfl).1, rfl,
        covers_iff.mpr meant⟩
    · exact ⟨other, member, applies, covers⟩

namespace Sample

/-- A comment between two pieces of code, which names a rule with its plugin and another one.
What follows it looks like a comment and like a description. -/
def namedRules : Comment where
  code := "f(); ".toList
  style := .block " g(); /* -- */".toList
  marker := ⟨"eslint-disable-next-line", .nextLine⟩
  ruleIds := ["error/no-generic-error", "a b"]

/-- The comment on a line that ends with a carriage return, and a directive for its own line
below. -/
def namedRulesSource : String :=
  "f(); /* eslint-disable-next-line error/no-generic-error, a b */ g(); /* -- */\r\n" ++
    "throw 'x'; // throwlint-disable-line x"

/-- The line of the comment. -/
def namedRulesLine : Text.Line namedRulesSource.toList where
  before := []
  content := namedRules.text ++ ['\r']
  after := "\nthrow 'x'; // throwlint-disable-line x".toList
  joined := by decide +kernel
  starts := Or.inl rfl
  whole := by decide +kernel
  ends := Or.inr ⟨"throw 'x'; // throwlint-disable-line x".toList, by decide +kernel⟩

end Sample

/-- The rules are hidden on the second line by their ids alone. Its own directive hides one
more. -/
theorem ofSource_comment_sample :
    let hides := (Suppressions.scan Sample.namedRulesSource).hides 2
    Sample.namedRules.IsReadable ∧
      Text.stripReturn Sample.namedRulesLine.content = Sample.namedRules.text ∧
      (ofSource Sample.namedRulesSource).filter (·.line = 1) =
        [⟨1, 2, ["error/no-generic-error", "a b"]⟩] ∧
      hides "no-generic-error" = true ∧ hides "a b" = true ∧ hides "x" = true ∧
      hides "error" = false := by
  intro hides
  have readable : Sample.namedRules.IsReadable := by decide +kernel
  have spelled : Text.stripReturn Sample.namedRulesLine.content = Sample.namedRules.text := by
    decide +kernel
  obtain ⟨own, hidden⟩ := ofSource_comment Sample.namedRulesLine readable spelled
  have behindSlash : Means "error/no-generic-error" "no-generic-error" :=
    Or.inr ⟨by decide, "error", rfl⟩
  have byName : Means "a b" "a b" := Or.inl rfl
  have scanned : Suppressions.scan Sample.namedRulesSource =
      ⟨[⟨1, 2, ["error/no-generic-error", "a b"]⟩, ⟨2, 2, ["x"]⟩]⟩ := by
    decide +kernel
  refine ⟨readable, spelled, own, ?_, ?_, ?_, ?_⟩
  · exact (hidden _).mpr (Or.inl (Or.inr ⟨_, List.mem_cons_self, behindSlash⟩))
  · exact (hidden _).mpr
      (Or.inl (Or.inr ⟨_, List.mem_cons_of_mem _ List.mem_cons_self, byName⟩))
  · show (Suppressions.scan Sample.namedRulesSource).hides 2 "x" = true
    rw [scanned]
    decide
  · show (Suppressions.scan Sample.namedRulesSource).hides 2 "error" = false
    rw [scanned]
    decide

end ErrorLint.Directive
