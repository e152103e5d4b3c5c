/-
This file says what a text must contain for a directive to be read from it. Directives are
looked for in the lines of the text and not in the tree, so what makes a directive is the
spelling of a line: a marker that stands behind the opener of a comment and is not part of a
longer word. A finding is hidden only if its own line, or the line before it, is spelled so.

Whether the opener opens a comment is not asked. Where a grammar finds all such spellings
inside of comments, nothing but comments hides, and without comments nothing is hidden; but a
literal can be spelled so as well, and then it hides findings like a comment.
-/

import ErrorLint.Proofs.Fix.Growth
import ErrorLint.Proofs.Linter.Hiding
import ErrorLint.Proofs.Tree.Comments
import ErrorLint.Proofs.Tree.Geometry

namespace ErrorLint

/-! ### The spelling of a directive -/

theorem Text.exists_append_of_contains {needle text : List Char}
    (contained : contains needle text = true) : ∃ front back, text = front ++ needle ++ back := by
  obtain ⟨⟨front, back⟩, split⟩ := Option.isSome_iff_exists.mp contained
  exact ⟨front, back, eq_append_of_splitFirst? split⟩

namespace Directive

/-- The marks that open a comment. -/
def openers : List (List Char) := [['/', '/'], ['/', '*']]

/-- A directive is spelled on a line: a marker stands somewhere behind the opener of a
comment, and its word ends there. -/
structure Spelling (line : List Char) where
  marker : Marker
  isMarker : marker ∈ markers
  opener : List Char
  isOpener : opener ∈ openers
  front : List Char
  middle : List Char
  back : List Char
  joined : line = front ++ opener ++ middle ++ marker.word.toList ++ back
  ends : endsWord back = true

theorem mem_of_locate {line before after : List Char} {among : List Marker} {marker : Marker}
    (located : locate line among = some (marker, before, after)) :
    marker ∈ among ∧ line = before ++ marker.word.toList ++ after := by
  induction among with
  | nil => cases located
  | cons first rest inductionHypothesis =>
    rw [locate] at located
    split at located
    · rename_i found
      cases located
      exact ⟨List.mem_cons_self, Text.eq_append_of_splitFirst? found⟩
    · obtain ⟨isMarker, joined⟩ := inductionHypothesis located
      exact ⟨List.mem_cons_of_mem _ isMarker, joined⟩

theorem exists_opener_of_opensComment {before : List Char} (opens : opensComment before = true) :
    ∃ opener ∈ openers, ∃ front middle, before = front ++ opener ++ middle := by
  rw [opensComment, Bool.or_eq_true] at opens
  rcases opens with line | block
  · exact ⟨_, List.mem_cons_self, Text.exists_append_of_contains line⟩
  · exact ⟨_, List.mem_cons_of_mem _ List.mem_cons_self, Text.exists_append_of_contains block⟩

theorem targetLine_injective {first second : DirectiveTarget} {number : Nat}
    (same : targetLine first number = targetLine second number) : first = second := by
  cases first <;> cases second <;> simp [targetLine] at same ⊢

/-- A line that holds a directive is spelled so. -/
theorem exists_spelling_of_standsOn {target : DirectiveTarget} {ruleId : String}
    {line : List Char} (stands : StandsOn target ruleId line) :
    ∃ spelling : Spelling line, spelling.marker.target = target := by
  obtain ⟨number, directive, read, applies, -⟩ := stands
  obtain ⟨marker, before, after, located, opens, ends, rfl⟩ := ofLine?_eq_some_iff.mp read
  obtain ⟨isMarker, joined⟩ := mem_of_locate located
  obtain ⟨opener, isOpener, front, middle, rfl⟩ := exists_opener_of_opensComment opens
  exact ⟨⟨marker, isMarker, opener, isOpener, front, middle, after, joined, ends⟩,
    targetLine_injective applies⟩

namespace Spelling

variable {text : List Char} {line : Text.Line text}

/-- The span of the marker in the text. -/
def span (spelling : Spelling line.content) : Span :=
  let start := Text.byteLength
    (line.before ++ (spelling.front ++ spelling.opener ++ spelling.middle))
  ⟨start, start + Text.byteLength spelling.marker.word.toList⟩

/-- The directive works on the line with the given offset: on its own line or on the next
one. -/
def Reaches (spelling : Spelling line.content) (offset : Nat) : Prop :=
  match spelling.marker.target with
  | .sameLine => line.Contains offset
  | .nextLine => ∃ next : Text.Line text, line.Precedes next ∧ next.Contains offset

/-- No directive is spelled without a slash. -/
theorem slash_mem (spelling : Spelling line.content) : '/' ∈ text := by
  have inOpener : '/' ∈ spelling.opener := by
    have always : ∀ opener ∈ openers, '/' ∈ opener := by decide
    exact always spelling.opener spelling.isOpener
  have inLine : '/' ∈ line.content := by
    rw [spelling.joined]
    simp only [List.mem_append]
    exact Or.inl (Or.inl (Or.inl (Or.inr inOpener)))
  rw [line.joined]
  exact List.mem_append_right _ (List.mem_append_left _ inLine)

end Spelling

end Directive

/-- Whatever is hidden at an offset is reached by a directive that is spelled on a line. -/
theorem HiddenAt.exists_spelling {text : List Char} {offset : Nat} {ruleId : String}
    (hidden : HiddenAt text offset ruleId) :
    ∃ (line : Text.Line text) (spelling : Directive.Spelling line.content),
      spelling.Reaches offset := by
  rcases hidden with ⟨line, contains, stands⟩ | ⟨previous, line, precedes, contains, stands⟩
  · obtain ⟨spelling, target⟩ := Directive.exists_spelling_of_standsOn stands
    refine ⟨line, spelling, ?_⟩
    rw [Directive.Spelling.Reaches, target]
    exact contains
  · obtain ⟨spelling, target⟩ := Directive.exists_spelling_of_standsOn stands
    refine ⟨previous, spelling, ?_⟩
    rw [Directive.Spelling.Reaches, target]
    exact ⟨line, precedes, contains⟩

/-- Whatever line is hidden, a directive is spelled on some line. -/
theorem Suppressions.exists_spelling_of_hides {source ruleId : String} {number : Nat}
    (hidden : (scan source).hides number ruleId = true) :
    ∃ line : Text.Line source.toList, Nonempty (Directive.Spelling line.content) := by
  obtain ⟨index, content, found, directive, read, -, covers⟩ := hides_iff.mp hidden
  obtain ⟨line, rfl⟩ := Text.Line.exists_of_mem_pieces (List.mem_of_getElem? found)
  obtain ⟨target, targets, -⟩ := Directive.exists_target_of_ofLine? read
  obtain ⟨spelling, -⟩ :=
    Directive.exists_spelling_of_standsOn ⟨_, directive, read, targets, covers⟩
  exact ⟨line, ⟨spelling⟩⟩

/-! ### Directives in comments -/

/-- The comments of a tree hold all directives: wherever one is spelled, its marker stands
inside of a comment. -/
def Concrete.HoldsDirectives (text : List Char) (tree : Concrete) : Prop :=
  ∀ (line : Text.Line text) (spelling : Directive.Spelling line.content),
    ∃ comment ∈ tree.nodes, comment.isComment = true ∧ spelling.span.Within comment.span

namespace Linter

/-- Where the comments of a tree hold all directives, only comments hide: if the grammar has
counted the text, whatever finding is missing is reached by a directive in a comment, and
without comments none is missing in any case. -/
theorem lintTree_hides_only_by_comments {linter : Linter Rule} (built : linter.IsBuilt)
    (parser : Parser) (source : String) (dialect : Dialect)
    (held : (parser source dialect).root.HoldsDirectives source.toList) :
    let tree := SourceTree.ofSource parser source dialect
    let root := (parser source dialect).root
    (root.IsCounted source.toList →
        ∀ diagnostic ∈ linter.emit tree, diagnostic ∉ linter.lintTree tree →
          ∃ (line : Text.Line source.toList) (spelling : Directive.Spelling line.content),
            spelling.Reaches diagnostic.place.span.start ∧
              ∃ comment ∈ root.nodes, comment.isComment = true ∧
                spelling.span.Within comment.span) ∧
      ((∀ inner ∈ root.nodes, inner.isComment = false) →
        linter.lintTree tree = linter.emit tree) := by
  intro tree root
  constructor
  · intro counted diagnostic member missing
    have isHidden :
        (Suppressions.scan tree.source).hides diagnostic.line diagnostic.rule.name = true := by
      by_contra shown
      rw [Bool.not_eq_true] at shown
      exact missing (List.mem_filter.mpr ⟨member, by rw [shown]; rfl⟩)
    have countsLines : tree.CountsLines := SourceTree.countsLines_ofSource counted
    obtain ⟨line, spelling, reaches⟩ :=
      ((built.hides_iff_of_mem_emit countsLines member).mp isHidden).exists_spelling
    exact ⟨line, spelling, reaches, held line spelling⟩
  · intro bare
    refine List.filter_eq_self.mpr fun diagnostic member => ?_
    cases isHidden : (Suppressions.scan tree.source).hides diagnostic.line diagnostic.rule.name with
    | false => rfl
    | true =>
      obtain ⟨line, ⟨spelling⟩⟩ := Suppressions.exists_spelling_of_hides isHidden
      obtain ⟨comment, inRoot, isComment, -⟩ := held line spelling
      rw [bare comment inRoot] at isComment
      cases isComment

end Linter

/-! ### Samples -/

namespace Sample

/-- A text that throws a marker. -/
def thrownMarker : Concrete :=
  node "program" none 0 28 [
    node "throw_statement" none 0 28 [
      node "string" none 6 27 [node "string_fragment" none 7 26 []]]]

/-- A text that throws a template with a marker behind two slashes, and on its second line a
literal. -/
def thrownDirective : Concrete :=
  node "program" none 0 49 [
    node "throw_statement" none 0 37 [
      node "template_string" none 6 36 [node "string_fragment" none 7 35 []]],
    nodeIn 1 35 "throw_statement" none 38 48 [
      nodeIn 1 35 "string" none 44 47 [nodeIn 1 35 "string_fragment" none 45 46 []]]]

/-- The rule about thrown literals. -/
def thrownLiterals : List (Activation Rule) := [⟨.noThrowLiteral .defaults, .error⟩]

end Sample

/-- A marker in a literal hides nothing if no slashes stand before it. -/
theorem Linter.lintTree_hides_only_by_comments_sample :
    let source := "throw 'eslint-disable-line';"
    let parser : Parser := fun _ _ => ⟨false, Sample.thrownMarker⟩
    let tree := SourceTree.ofSource parser source .javascript
    let linter := register Sample.thrownLiterals
    (parser source .javascript).root.HoldsDirectives source.toList ∧
      (∀ inner ∈ (parser source .javascript).root.nodes, inner.isComment = false) ∧
      linter.lintTree tree = linter.emit tree ∧
      (linter.lintTree tree).map (·.place.span) = [⟨6, 27⟩] := by
  intro source parser tree linter
  have noSlash : '/' ∉ source.toList := by decide +kernel
  have held : (parser source .javascript).root.HoldsDirectives source.toList :=
    fun line spelling => absurd spelling.slash_mem noSlash
  have bare : ∀ inner ∈ (parser source .javascript).root.nodes, inner.isComment = false := by
    decide
  obtain ⟨-, all⟩ := lintTree_hides_only_by_comments (isBuilt_register Sample.thrownLiterals)
    parser source .javascript held
  exact ⟨held, bare, all bare, by decide +kernel⟩

/-- The text of a template hides a finding on the next line, though there is no comment. -/
theorem Linter.literal_hides_finding :
    let source := "throw `// eslint-disable-next-line\n`; throw 'x';\n"
    let parser : Parser := fun _ _ => ⟨false, Sample.thrownDirective⟩
    let tree := SourceTree.ofSource parser source .javascript
    let linter := register Sample.thrownLiterals
    (parser source .javascript).root.IsCounted source.toList ∧
      (∀ inner ∈ (parser source .javascript).root.nodes, inner.isComment = false) ∧
      (linter.emit tree).map (·.place.span) = [⟨6, 36⟩, ⟨44, 47⟩] ∧
      (linter.lintTree tree).map (·.place.span) = [⟨6, 36⟩] := by
  decide +kernel

end ErrorLint
