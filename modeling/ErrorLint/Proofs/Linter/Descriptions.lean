/-
This file says how far the description of a directive is a description. Behind a double hyphen
a directive may be explained, and the explanation is meant to be free. The reading cuts it off
before it lists the ids: whatever the description has in it, a comma, another hyphen or what
would close a comment, the ids are those in front of it.

But the line is searched for markers before it is cut, and the markers are looked for one
after the other in the order of their table, each of them on the whole line. So a description
is free of every marker but those that come before the marker of its directive in the table.
If such a marker is named in it, the line is read from there: it has the directive of the
description, or none if the word goes on, and what stands in front of the description is lost.
-/

import ErrorLint.Proofs.Linter.DirectiveComments
import ErrorLint.Proofs.Linter.Markers

namespace ErrorLint.Directive

/-- What divides a directive from its description. -/
def divider : List Char := [' ', '-', '-', ' ']

/-- The line with a description at its end. -/
def described (line description : List Char) : List Char := line ++ divider ++ description

/-- The markers that are looked for before one is found on the line. -/
def outranking (line : List Char) (among : List Marker) : List Marker :=
  among.takeWhile fun marker => !Text.contains marker.word.toList line

/-- The directive that a marker makes with what stands behind it, if its word ends there. -/
def ofMarker? (number : Nat) (marker : Marker) (after : List Char) : Option Directive :=
  if endsWord after then some ⟨number, targetLine marker.target number, listed after⟩ else none

/-! ### Looking for markers -/

theorem apart_divider :
    ∀ marker ∈ markers, ' ' ∉ marker.word.toList ∧ ¬marker.word.toList <:+: ['-', '-'] := by
  decide

/-- A word that is not on the line and has no part of the divider is looked for in the
description. -/
theorem splitFirst?_described {word line : List Char} (noBlank : ' ' ∉ word)
    (noHyphens : ¬word <:+: ['-', '-']) (absent : ¬word <:+: line) (description : List Char) :
    Text.splitFirst? word (described line description) =
      (Text.splitFirst? word description).map fun parts => (described line parts.1, parts.2) := by
  have joined : described line description =
      line ++ ' ' :: (['-', '-'] ++ ' ' :: description) := by
    simp [described, divider]
  rw [joined, Text.splitFirst?_append_cons noBlank absent,
    Text.splitFirst?_append_cons noBlank noHyphens, Option.map_map]
  refine congrArg (Option.map · _) (funext fun parts => ?_)
  simp [described, divider]

/-- A marker of the description is found before the one of the line if it outranks that. -/
theorem locate_described {line before after : List Char} {among : List Marker} {marker : Marker}
    (words : ∀ marker ∈ among, ' ' ∉ marker.word.toList ∧ ¬marker.word.toList <:+: ['-', '-'])
    (located : locate line among = some (marker, before, after)) (description : List Char) :
    locate (described line description) among =
      match locate description (outranking line among) with
      | some (other, front, back) => some (other, described line front, back)
      | none => some (marker, before, described after description) := by
  induction among with
  | nil => cases located
  | cons first rest inductionHypothesis =>
    obtain ⟨noBlank, noHyphens⟩ := words first List.mem_cons_self
    rw [locate] at located
    cases found : Text.splitFirst? first.word.toList line with
    | some parts =>
      have onLine : Text.contains first.word.toList line = true := by
        rw [Text.contains, found]
        rfl
      have early : Text.splitFirst? first.word.toList (described line description) =
          some (parts.1, described parts.2 description) := by
        rw [described, List.append_assoc, Text.splitFirst?_append_of_some found,
          ← List.append_assoc]
        rfl
      rw [locate, early, outranking, List.takeWhile_cons_of_neg (by simp [onLine])]
      rw [found] at located
      cases located
      rfl
    | none =>
      rw [found] at located
      have absent := Text.splitFirst?_eq_none_iff.mp found
      have notOnLine : Text.contains first.word.toList line = false := by
        rw [Text.contains, found]
        rfl
      rw [locate, splitFirst?_described noBlank noHyphens absent, outranking,
        List.takeWhile_cons_of_pos (by simp [notOnLine]), locate]
      cases Text.splitFirst? first.word.toList description with
      | some parts => rfl
      | none =>
        exact inductionHypothesis (fun other later => words other (List.mem_cons_of_mem _ later))
          located

/-! ### Reading what stands behind the marker -/

theorem endsWord_described (after description : List Char) :
    endsWord (described after description) = endsWord after := by
  cases after <;> rfl

/-- The ids are listed up to the divider, whatever the description is. -/
theorem listed_described (after description : List Char) :
    listed (described after description) = listed after := by
  have blankNoComma : ' ' ≠ ',' := by decide
  have blankNoClosing : ' ' ∉ ['*', '/'] := by decide
  have blankNoHyphen : ' ' ∉ ['-', '-'] := by decide
  have joined : described after description =
      after ++ ' ' :: (['-', '-'] ++ ' ' :: description) := by
    simp [described, divider]
  unfold listed
  dsimp only
  by_cases closed : ['*', '/'] <:+: after
  · rw [described, List.append_assoc, Text.upTo_append_of_infix closed]
  · -- The comment is closed in the description, or not at all.
    have hyphensOpen : ¬['*', '/'] <:+: ['-', '-'] := by decide
    rw [Text.upTo_of_not_infix closed, joined,
      Text.upTo_append_cons_of_not_infix blankNoClosing closed,
      Text.upTo_append_cons_of_not_infix blankNoClosing hyphensOpen]
    by_cases hyphened : ['-', '-'] <:+: after
    · rw [Text.upTo_append_of_infix hyphened]
    · rw [Text.upTo_append_cons blankNoHyphen hyphened, Text.upTo_of_not_infix hyphened,
        Text.map_trim_pieces_append_singleton blankNoComma rfl]

theorem opensComment_append {text : List Char} (opens : opensComment text = true)
    (more : List Char) : opensComment (text ++ more) = true := by
  rw [opensComment, Bool.or_eq_true, Text.contains_iff_infix, Text.contains_iff_infix] at opens ⊢
  exact opens.imp (·.trans (List.prefix_append text more).isInfix)
    (·.trans (List.prefix_append text more).isInfix)

/-! ### The directive of a line with a description -/

theorem ofLine?_of_locate {number : Nat} {line before after : List Char} {marker : Marker}
    (located : locate line markers = some (marker, before, after))
    (opens : opensComment before = true) :
    ofLine? number line = ofMarker? number marker after := by
  rw [ofLine?, located, ofMarker?]
  cases ends : endsWord after <;> simp [opens, ends, guard]

theorem ofMarker?_described (number : Nat) (marker : Marker) (after description : List Char) :
    ofMarker? number marker (described after description) = ofMarker? number marker after := by
  rw [ofMarker?, endsWord_described, listed_described]
  rfl

/-- A description takes nothing from the directive of its line, unless a marker is named in it
that outranks the one of the line. Then that marker makes the directive, with what stands behind
it. -/
theorem ofLine?_described {number : Nat} {line : List Char} {directive : Directive}
    (read : ofLine? number line = some directive) (description : List Char) :
    ofLine? number (described line description) =
      match locate description (outranking line markers) with
      | some (other, _, back) => ofMarker? number other back
      | none => some directive := by
  obtain ⟨marker, before, after, located, opens, -, -⟩ := ofLine?_eq_some_iff.mp read
  have found := locate_described apart_divider located description
  cases overriding : locate description (outranking line markers) with
  | none =>
    rw [overriding] at found
    rw [ofLine?_of_locate found opens, ofMarker?_described, ← ofLine?_of_locate located opens,
      read]
  | some parts =>
    obtain ⟨other, front, back⟩ := parts
    rw [overriding] at found
    -- What opens the comment of the line also stands in front of the description.
    obtain ⟨-, joined⟩ := mem_of_locate located
    have opensLine : opensComment (described line front) = true := by
      rw [joined, described, List.append_assoc, List.append_assoc, List.append_assoc]
      exact opensComment_append opens _
    exact ofLine?_of_locate found opensLine

theorem locate_eq_none_iff {line : List Char} {among : List Marker} :
    locate line among = none ↔ ∀ marker ∈ among, ¬marker.word.toList <:+: line := by
  induction among with
  | nil => simp [locate]
  | cons first rest inductionHypothesis =>
    rw [List.forall_mem_cons, ← inductionHypothesis, ← Text.splitFirst?_eq_none_iff, locate]
    cases Text.splitFirst? first.word.toList line with
    | none => simp
    | some parts => simp

/-! ### The directives of a text with a description in it -/

/-- Another line in the place of a line changes the directive of the line and no other one. -/
theorem exists_ofSource_eq {source : String} (line : Text.Line source.toList) :
    ∃ earlier later : List Directive, ∀ content, '\n' ∉ content →
      ofSource (String.ofList (line.before ++ (content ++ line.after))) =
        earlier ++ ((ofLine? (1 + line.before.count '\n') content).toList ++ later) := by
  obtain ⟨front, back, number, placed⟩ := line.exists_pieces_eq
  refine ⟨ofLines 1 front, ofLines (1 + front.length + 1) back, fun content whole => ?_⟩
  rw [ofSource_eq, String.toList_ofList, placed content whole, ofLines_append, ofLines, number]

theorem notMem_stripReturn {text : List Char} (line : Text.Line text) :
    '\n' ∉ Text.stripReturn line.content := by
  intro member
  unfold Text.stripReturn at member
  split at member
  · exact line.whole (List.mem_of_mem_dropLast member)
  · exact line.whole member

/-- A description behind a directive leaves all directives of a text as they are, whatever it
says, as long as no marker is named in it that is looked for before the one of the directive
is found. If there is such a marker, the first of them in the table takes the place of the
directive, with its own line to work on and the ids behind it, or with nothing if it is part
of a longer word. A carriage return at the end of the line counts as a part of the
description. -/
theorem ofSource_described {source : String} (line : Text.Line source.toList)
    {directive : Directive} {description : List Char} (noFeed : '\n' ∉ description)
    (read : ofLine? (1 + line.before.count '\n') (Text.stripReturn line.content) =
      some directive) :
    let number := 1 + line.before.count '\n'
    let content := Text.stripReturn line.content
    let explained :=
      String.ofList (line.before ++ (described content description ++ line.after))
    ((∀ marker ∈ outranking content markers, ¬marker.word.toList <:+: description) →
        ofLine? number (described content description) = some directive ∧
          ofSource explained = ofSource source) ∧
      ∀ marker front back,
        locate description (outranking content markers) = some (marker, front, back) →
          ofLine? number (described content description) = ofMarker? number marker back ∧
            ∃ earlier later, ofSource source = earlier ++ directive :: later ∧
              ofSource explained = earlier ++ ((ofMarker? number marker back).toList ++ later) := by
  intro number content explained
  have rule := ofLine?_described read description
  obtain ⟨earlier, later, placed⟩ := exists_ofSource_eq line
  have whole : '\n' ∉ described content description := by
    have noFeedDivider : '\n' ∉ divider := by decide
    simp only [described, List.mem_append, not_or]
    exact ⟨⟨notMem_stripReturn line, noFeedDivider⟩, noFeed⟩
  have before : ofSource source = earlier ++ directive :: later := by
    have original := placed line.content line.whole
    rw [← line.joined, String.ofList_toList, ← ofLine?_stripReturn, read] at original
    exact original
  have after : ofSource explained =
      earlier ++ ((ofLine? number (described content description)).toList ++ later) :=
    placed _ whole
  constructor
  · intro free
    rw [locate_eq_none_iff.mpr free] at rule
    refine ⟨rule, ?_⟩
    rw [after, rule, before]
    rfl
  · intro marker front back overriding
    rw [overriding] at rule
    refine ⟨rule, earlier, later, before, ?_⟩
    rw [after, rule]

namespace Sample

/-- Two directives for their own lines, on lines that end with a carriage return and without
one. -/
def ownLinesSource : String :=
  "f();\nthrow 'x'; // throwlint-disable-line a\r\nthrow 'y'; // eslint-disable-line b"

/-- The line of the first directive. -/
def ownLine : Text.Line ownLinesSource.toList where
  before := "f();\n".toList
  content := "throw 'x'; // throwlint-disable-line a\r".toList
  after := "\nthrow 'y'; // eslint-disable-line b".toList
  joined := by decide +kernel
  starts := Or.inr ⟨"f();".toList, by decide +kernel⟩
  whole := by decide +kernel
  ends := Or.inr ⟨"throw 'y'; // eslint-disable-line b".toList, by decide +kernel⟩

end Sample

/-- The description names the marker of its directive and the one behind it in the table. -/
theorem ofSource_described_sample :
    let description := "not throwlint-disable-line, eslint-disable-line */ c -- d\r".toList
    let content := Text.stripReturn Sample.ownLine.content
    '\n' ∉ description ∧ ofLine? 2 content = some ⟨2, 2, ["a"]⟩ ∧
      ofLine? 2 (described content description) = some ⟨2, 2, ["a"]⟩ ∧
      ofSource (String.ofList (Sample.ownLine.before ++
          (described content description ++ Sample.ownLine.after))) =
        ofSource Sample.ownLinesSource := by
  intro description content
  have noFeed : '\n' ∉ description := by decide +kernel
  have read : ofLine? (1 + Sample.ownLine.before.count '\n') content = some ⟨2, 2, ["a"]⟩ := by
    decide +kernel
  have free : ∀ marker ∈ outranking content markers, ¬marker.word.toList <:+: description := by
    decide +kernel
  exact ⟨noFeed, read, (ofSource_described Sample.ownLine noFeed read).1 free⟩

/-- A description that names a marker from the start of the table moves the directive to the
next line and takes the ids away from it. -/
theorem description_overrides :
    let line := "throw 'x'; // eslint-disable-line no-throw-literal".toList
    let description := "was eslint-disable-next-line".toList
    '\n' ∉ description ∧
      ofLine? 1 line = some ⟨1, 1, ["no-throw-literal"]⟩ ∧
      ofLine? 1 (described line description) = some ⟨1, 2, []⟩ := by
  decide +kernel

end ErrorLint.Directive
