/-
This file compares two ways to say on which line a byte of a text stands. One counts: the
number of a line is one more than the number of bytes before it that are line feeds. The
other one cuts: a text is taken apart at its line feeds, and a line is the piece that reaches
from one of them to the next. That the piece with a number is the line whose bytes have this
count is what everything needs that looks up lines by number.

A line feed is the only line end here. Taking lines out of a text is a little different: it
also drops a carriage return in front of a line feed, and an empty line at the end. What is
left differs from the pieces in these two points and in no other.
-/

import ErrorLint.Proofs.Text.Cutting
import ErrorLint.Text.Lines
import ErrorLint.Text.Search
import Mathlib.Data.List.Basic

namespace ErrorLint

namespace Text

/-! ### Counting line feeds -/

/-- The bytes of a text in UTF-8. -/
def bytes (text : List Char) : List UInt8 := text.flatMap String.utf8EncodeChar

/-- The number of line feeds among the bytes before an offset. -/
def lineFeedsBefore (text : List Char) (offset : Nat) : Nat :=
  ((bytes text).take offset).count 0x0A

theorem bytes_cons (char : Char) (rest : List Char) :
    bytes (char :: rest) = String.utf8EncodeChar char ++ bytes rest := rfl

theorem bytes_append (left right : List Char) : bytes (left ++ right) = bytes left ++ bytes right :=
  List.flatMap_append

theorem length_bytes (text : List Char) : (bytes text).length = byteLength text := by
  induction text with
  | nil => rfl
  | cons char rest inductionHypothesis =>
    rw [bytes_cons, List.length_append, String.length_utf8EncodeChar, inductionHypothesis,
      byteLength_cons]

/-- Only the line feed has the byte of a line feed in it. -/
theorem mem_utf8EncodeChar_iff (char : Char) :
    0x0A ∈ String.utf8EncodeChar char ↔ char = '\n' := by
  constructor
  · intro member
    have values : ∀ high < 256, (0x0A : UInt8) = UInt8.ofNat high → 10 = high := by
      intro high small same
      have bytes := congrArg UInt8.toNat same
      rwa [UInt8.toNat_ofNat', Nat.mod_eq_of_lt small] at bytes
    unfold String.utf8EncodeChar at member
    dsimp only at member
    split at member
    · rename_i ascii
      have code := values _ (Nat.lt_of_le_of_lt ascii (by decide)) (List.mem_singleton.mp member)
      exact Char.ext (UInt32.toNat_inj.mp code.symm)
    · -- All bytes of a longer code are above the ASCII ones.
      exfalso
      split at member
      · simp only [List.mem_cons, List.not_mem_nil, or_false] at member
        rcases member with same | same <;> have code := values _ (by omega) same <;> omega
      · split at member
        · simp only [List.mem_cons, List.not_mem_nil, or_false] at member
          rcases member with same | same | same <;>
            have code := values _ (by omega) same <;> omega
        · simp only [List.mem_cons, List.not_mem_nil, or_false] at member
          rcases member with same | same | same | same <;>
            have code := values _ (by omega) same <;> omega
  · rintro rfl
    decide

theorem count_bytes_of_notMem {text : List Char} (noFeed : '\n' ∉ text) :
    (bytes text).count 0x0A = 0 := by
  refine List.count_eq_zero.mpr fun member => ?_
  obtain ⟨char, inText, inChar⟩ := List.mem_flatMap.mp member
  rw [(mem_utf8EncodeChar_iff char).mp inChar] at inText
  exact noFeed inText

theorem count_utf8EncodeChar (char : Char) :
    (String.utf8EncodeChar char).count 0x0A = if char = '\n' then 1 else 0 := by
  split
  · rename_i isFeed
    rw [isFeed]
    rfl
  · rename_i notFeed
    exact List.count_eq_zero.mpr fun member => notFeed ((mem_utf8EncodeChar_iff char).mp member)

theorem count_bytes (text : List Char) : (bytes text).count 0x0A = text.count '\n' := by
  induction text with
  | nil => rfl
  | cons char rest inductionHypothesis =>
    rw [bytes_cons, List.count_append, inductionHypothesis, count_utf8EncodeChar, List.count_cons,
      Nat.add_comm]
    simp only [beq_iff_eq]

/-! ### Lines -/

/-- A line of a text, with what stands before and after it. It reaches from the start of the
text or a line feed to the next line feed or the end of the text. -/
structure Line (text : List Char) where
  before : List Char
  content : List Char
  after : List Char
  joined : text = before ++ (content ++ after)
  starts : before = [] ∨ ∃ front, before = front ++ ['\n']
  whole : '\n' ∉ content
  ends : after = [] ∨ ∃ rest, after = '\n' :: rest

namespace Line

variable {text : List Char}

/-- A line contains the byte offsets from its first byte to the line feed at its end. The last
line contains all that follow. -/
def Contains (line : Line text) (offset : Nat) : Prop :=
  byteLength line.before ≤ offset ∧
    (line.after = [] ∨ offset ≤ byteLength line.before + byteLength line.content)

/-- A line stands directly before another one. -/
def Precedes (first second : Line text) : Prop :=
  second.before = first.before ++ (first.content ++ ['\n'])

/-- Every offset is in a line. -/
theorem exists_contains (text : List Char) (offset : Nat) :
    ∃ line : Line text, line.Contains offset := by
  induction text generalizing offset with
  | nil =>
    exact ⟨⟨[], [], [], rfl, Or.inl rfl, List.not_mem_nil, Or.inl rfl⟩, Nat.zero_le _, Or.inl rfl⟩
  | cons char rest inductionHypothesis =>
    obtain ⟨⟨before, content, after, joined, starts, whole, ends⟩, reached, bounded⟩ :=
      inductionHypothesis (offset - char.utf8Size)
    dsimp only at reached bounded
    have positive := char.utf8Size_pos
    by_cases first : before = [] ∧ char ≠ '\n'
    · -- The character belongs to the first line, which gets longer by it.
      obtain ⟨rfl, notFeed⟩ := first
      refine ⟨⟨[], char :: content, after, by rw [joined]; rfl, Or.inl rfl, ?_, ends⟩,
        Nat.zero_le _, bounded.imp_right fun bound => ?_⟩
      · exact fun member => (List.mem_cons.mp member).elim (fun same => notFeed same.symm) whole
      · simp only [byteLength_nil, byteLength_cons] at bound ⊢
        omega
    · by_cases here : char = '\n' ∧ offset = 0
      · obtain ⟨rfl, rfl⟩ := here
        exact ⟨⟨[], [], '\n' :: rest, rfl, Or.inl rfl, List.not_mem_nil, Or.inr ⟨rest, rfl⟩⟩,
          Nat.le_refl _, Or.inr (Nat.le_refl _)⟩
      · -- The line stands behind the character, and the offset has got that far.
        have later : char.utf8Size ≤ offset := by
          by_cases isFeed : char = '\n'
          · subst isFeed
            have notZero : offset ≠ 0 := fun zero => here ⟨rfl, zero⟩
            have single : '\n'.utf8Size = 1 := rfl
            omega
          · have nonempty : before ≠ [] := fun empty => first ⟨empty, isFeed⟩
            obtain ⟨front, rfl⟩ := starts.resolve_left nonempty
            have one : byteLength ['\n'] = 1 := rfl
            rw [byteLength_append] at reached
            omega
        refine ⟨⟨char :: before, content, after, by rw [joined]; rfl, Or.inr ?_, whole, ends⟩,
          ?_, bounded.imp_right fun bound => ?_⟩
        · rcases starts with empty | ⟨front, rfl⟩
          · have isFeed : char = '\n' := by
              by_contra notFeed
              exact first ⟨empty, notFeed⟩
            exact ⟨[], by rw [empty, isFeed]; rfl⟩
          · exact ⟨char :: front, rfl⟩
        · rw [byteLength_cons]
          omega
        · dsimp only
          rw [byteLength_cons]
          omega

/-- The line feeds before an offset are those before its line. -/
theorem lineFeedsBefore_eq {line : Line text} {offset : Nat} (contains : line.Contains offset) :
    lineFeedsBefore text offset = line.before.count '\n' := by
  obtain ⟨reached, bounded⟩ := contains
  have tail : ((bytes (line.content ++ line.after)).take (offset - byteLength line.before)).count
      0x0A = 0 := by
    refine List.count_eq_zero.mpr fun member => ?_
    have inContent : 0x0A ∈ bytes line.content := by
      rw [bytes_append, List.take_append] at member
      rcases List.mem_append.mp member with inside | outside
      · exact List.mem_of_mem_take inside
      · rcases bounded with last | bound
        · rw [last] at outside
          cases List.mem_of_mem_take outside
        · rw [length_bytes, Nat.sub_eq_zero_of_le (by omega), List.take_zero] at outside
          cases outside
    exact List.count_eq_zero.mp (count_bytes_of_notMem line.whole) inContent
  have cut : (bytes text).take offset = bytes line.before ++
      (bytes (line.content ++ line.after)).take (offset - byteLength line.before) := by
    have length := length_bytes line.before
    conv_lhs => rw [line.joined]
    rw [bytes_append, List.take_append, List.take_of_length_le (by omega), length]
  rw [lineFeedsBefore, cut, List.count_append, tail, count_bytes, Nat.add_zero]

/-- A text that does not end in a line feed, or is empty, ends in a line. -/
theorem exists_last (front : List Char) :
    ∃ before content, front = before ++ content ∧ '\n' ∉ content ∧
      (before = [] ∨ ∃ rest, before = rest ++ ['\n']) := by
  obtain ⟨line, reached, bounded⟩ := exists_contains front (byteLength front)
  have last : line.after = [] := by
    rcases bounded with last | bound
    · exact last
    · have length := congrArg byteLength line.joined
      rw [byteLength_append, byteLength_append] at length
      cases empty : line.after with
      | nil => rfl
      | cons char rest =>
        have positive := char.utf8Size_pos
        rw [empty, byteLength_cons] at length
        omega
  refine ⟨line.before, line.content, ?_, line.whole, line.starts⟩
  have joined := line.joined
  rwa [last, List.append_nil] at joined

/-- Before every line but the first there is another one. -/
theorem exists_precedes (line : Line text) (notFirst : 0 < line.before.count '\n') :
    ∃ previous : Line text, previous.Precedes line := by
  obtain ⟨lineBefore, lineContent, lineAfter, rfl, rfl | ⟨front, rfl⟩, lineWhole, lineEnds⟩ := line
  · cases notFirst
  · obtain ⟨before, content, rfl, whole, starts⟩ := exists_last front
    refine ⟨⟨before, content, '\n' :: (lineContent ++ lineAfter), ?_, starts, whole,
      Or.inr ⟨_, rfl⟩⟩, List.append_assoc _ _ _⟩
    rw [List.append_assoc, List.append_assoc, List.singleton_append]

theorem count_of_precedes {previous line : Line text} (precedes : previous.Precedes line) :
    line.before.count '\n' = previous.before.count '\n' + 1 := by
  rw [precedes, List.count_append, List.count_append, List.count_eq_zero.mpr previous.whole]
  rfl

/-- There is a line for every number of line feeds before it. -/
theorem exists_count_eq {number : Nat} (bound : number ≤ text.count '\n') :
    ∃ line : Line text, line.before.count '\n' = number := by
  obtain ⟨behind, equal⟩ := Nat.exists_eq_add_of_le bound
  -- From the last line back to the first.
  induction behind generalizing number with
  | zero =>
    obtain ⟨before, content, joined, whole, starts⟩ := exists_last text
    refine ⟨⟨before, content, [], by rw [List.append_nil, joined], starts, whole, Or.inl rfl⟩, ?_⟩
    rw [joined, List.count_append, List.count_eq_zero.mpr whole] at equal
    exact equal
  | succ behind inductionHypothesis =>
    obtain ⟨line, count⟩ := @inductionHypothesis (number + 1) (by omega) (by omega)
    obtain ⟨previous, precedes⟩ := line.exists_precedes (by omega)
    exact ⟨previous, by rw [count_of_precedes precedes] at count; omega⟩

end Line

/-! ### Pieces between line feeds -/

theorem pieces_of_notMem {separator : Char} {text : List Char} (absent : separator ∉ text) :
    pieces separator text = [text] := by
  induction text with
  | nil => rfl
  | cons char rest inductionHypothesis =>
    have different : char ≠ separator := fun same => absent (same ▸ List.mem_cons_self)
    rw [pieces, if_neg different,
      inductionHypothesis fun inRest => absent (List.mem_cons_of_mem _ inRest)]

theorem pieces_ne_nil (separator : Char) (text : List Char) : pieces separator text ≠ [] := by
  cases text with
  | nil => exact List.cons_ne_nil _ _
  | cons char rest =>
    rw [pieces]
    split
    · exact List.cons_ne_nil _ _
    · split <;> exact List.cons_ne_nil _ _

theorem pieces_cons_of_ne {separator char : Char} (different : char ≠ separator)
    {text piece : List Char} {more : List (List Char)}
    (rest : pieces separator text = piece :: more) :
    pieces separator (char :: text) = (char :: piece) :: more := by
  rw [pieces, if_neg different, rest]

theorem pieces_append_cons (separator : Char) (front rest : List Char) :
    pieces separator (front ++ separator :: rest) =
      pieces separator front ++ pieces separator rest := by
  induction front with
  | nil =>
    rw [List.nil_append, pieces.eq_def]
    exact if_pos rfl
  | cons char more inductionHypothesis =>
    by_cases same : char = separator
    · rw [List.cons_append, pieces, if_pos same, inductionHypothesis, pieces, if_pos same,
        List.cons_append]
    · cases split : pieces separator more with
      | nil => exact absurd split (pieces_ne_nil _ _)
      | cons piece others =>
        rw [split, List.cons_append] at inductionHypothesis
        rw [List.cons_append, pieces_cons_of_ne same inductionHypothesis,
          pieces_cons_of_ne same split, List.cons_append]

theorem length_pieces (separator : Char) (text : List Char) :
    (pieces separator text).length = text.count separator + 1 := by
  induction text with
  | nil => rfl
  | cons char rest inductionHypothesis =>
    by_cases same : char = separator
    · rw [pieces, if_pos same, List.length_cons, inductionHypothesis, same, List.count_cons_self]
    · cases split : pieces separator rest with
      | nil => exact absurd split (pieces_ne_nil _ _)
      | cons piece more =>
        rw [pieces_cons_of_ne same split, List.count_cons_of_ne same, ← inductionHypothesis, split]
        rfl

/-- A line is one of the pieces, and another line in its place leaves the other pieces as they
are. -/
theorem Line.exists_pieces_eq {text : List Char} (line : Line text) :
    ∃ front back : List (List Char), front.length = line.before.count '\n' ∧
      ∀ content, '\n' ∉ content →
        pieces '\n' (line.before ++ (content ++ line.after)) = front ++ content :: back := by
  obtain ⟨before, original, after, -, starts, -, ends⟩ := line
  dsimp only
  have behind : ∃ back, ∀ content, '\n' ∉ content →
      pieces '\n' (content ++ after) = content :: back := by
    rcases ends with rfl | ⟨rest, rfl⟩
    · refine ⟨[], fun content whole => ?_⟩
      rw [List.append_nil, pieces_of_notMem whole]
    · refine ⟨pieces '\n' rest, fun content whole => ?_⟩
      rw [pieces_append_cons, pieces_of_notMem whole]
      rfl
  obtain ⟨back, behind⟩ := behind
  rcases starts with rfl | ⟨front, rfl⟩
  · exact ⟨[], back, rfl, behind⟩
  · refine ⟨pieces '\n' front, back, ?_, fun content whole => ?_⟩
    · rw [List.count_append, length_pieces]
      rfl
    · rw [List.append_assoc, List.singleton_append, pieces_append_cons, behind content whole]

/-- The piece at a number is the line with this many line feeds before it. -/
theorem Line.getElem?_pieces {text : List Char} (line : Line text) :
    (pieces '\n' text)[line.before.count '\n']? = some line.content := by
  obtain ⟨front, back, number, placed⟩ := line.exists_pieces_eq
  have split := placed line.content line.whole
  rw [← line.joined] at split
  rw [split, ← number, List.getElem?_append_right (Nat.le_refl _), Nat.sub_self]
  rfl

/-- And every piece is a line. -/
theorem Line.exists_of_mem_pieces {text content : List Char} (member : content ∈ pieces '\n' text) :
    ∃ line : Line text, line.content = content := by
  obtain ⟨number, found⟩ := List.getElem?_of_mem member
  have bound := (List.getElem?_eq_some_iff.mp found).1
  rw [length_pieces] at bound
  obtain ⟨line, rfl⟩ := exists_count_eq (Nat.le_of_lt_succ bound)
  rw [line.getElem?_pieces] at found
  exact ⟨line, Option.some.inj found⟩

/-! ### Taking lines out -/

/-- The line without a carriage return at its end. -/
def stripReturn (line : List Char) : List Char :=
  if line.getLast? = some '\r' then line.dropLast else line

theorem stripReturn_cons {char : Char} {line : List Char} (apart : line = [] → char ≠ '\r') :
    stripReturn (char :: line) = char :: stripReturn line := by
  cases line with
  | nil =>
    have notReturn := apart rfl
    simp [stripReturn, notReturn]
  | cons next rest =>
    unfold stripReturn
    rw [List.getLast?_cons_cons, List.dropLast_cons_cons]
    split <;> rfl

theorem head?_of_pieces {separator : Char} {text : List Char} {more : List (List Char)}
    (first : pieces separator text = [] :: more) (others : more ≠ []) :
    text.head? = some separator := by
  cases text with
  | nil => exact absurd (List.cons.inj first).2.symm others
  | cons char rest =>
    by_cases same : char = separator
    · rw [same]
      rfl
    · cases split : pieces separator rest with
      | nil => exact absurd split (pieces_ne_nil _ _)
      | cons piece others =>
        rw [pieces_cons_of_ne same split] at first
        cases first

/-- The lines of a text are its pieces, all but the last without a carriage return at the end,
and the last one only if it is not empty. -/
theorem exists_lines_eq (text : List Char) :
    ∃ front last, pieces '\n' text = front ++ [last] ∧
      lines text = front.map stripReturn ++ (if last = [] then [] else [last]) := by
  fun_induction lines text with
  | case1 => exact ⟨[], [], rfl, rfl⟩
  | case2 rest inductionHypothesis =>
    obtain ⟨front, last, split, taken⟩ := inductionHypothesis
    refine ⟨['\r'] :: front, last, ?_, ?_⟩
    · rw [show '\r' :: '\n' :: rest = ['\r'] ++ '\n' :: rest from rfl, pieces_append_cons, split]
      rfl
    · rw [taken]
      rfl
  | case3 rest inductionHypothesis =>
    obtain ⟨front, last, split, taken⟩ := inductionHypothesis
    refine ⟨[] :: front, last, ?_, ?_⟩
    · rw [pieces, if_pos rfl, split]
      rfl
    · rw [taken]
      rfl
  | case4 char rest notBoth notFeed none inductionHypothesis =>
    obtain ⟨front, last, split, taken⟩ := inductionHypothesis
    rw [none] at taken
    obtain ⟨noFront, noLast⟩ := List.append_eq_nil_iff.mp taken.symm
    obtain rfl := List.map_eq_nil_iff.mp noFront
    have empty : last = [] := by
      by_contra nonempty
      rw [if_neg nonempty] at noLast
      cases noLast
    rw [empty] at split
    exact ⟨[], [char], pieces_cons_of_ne notFeed split, rfl⟩
  | case5 char rest notBoth notFeed line more found inductionHypothesis =>
    obtain ⟨front, last, split, taken⟩ := inductionHypothesis
    rw [found] at taken
    cases front with
    | nil =>
      by_cases empty : last = []
      · rw [if_pos empty] at taken
        cases taken
      · rw [if_neg empty] at taken
        obtain ⟨rfl, rfl⟩ := List.cons.inj taken
        exact ⟨[], char :: line, pieces_cons_of_ne notFeed split, rfl⟩
    | cons piece others =>
      rw [List.map_cons, List.cons_append] at taken
      obtain ⟨rfl, rfl⟩ := List.cons.inj taken
      -- A carriage return alone in its piece would stand in front of a line feed.
      have apart : piece = [] → char ≠ '\r' := by
        rintro rfl isReturn
        have next := head?_of_pieces split (List.append_ne_nil_of_right_ne_nil _
          (List.cons_ne_nil _ _))
        obtain ⟨tail, rfl⟩ := List.head?_eq_some_iff.mp next
        exact notBoth tail isReturn rfl
      refine ⟨(char :: piece) :: others, last, pieces_cons_of_ne notFeed split, ?_⟩
      rw [List.map_cons, stripReturn_cons apart]
      rfl

/-! ### Line numbers -/

theorem lineFeedsBefore_cons_of_lt {char : Char} {offset : Nat} (inside : offset < char.utf8Size)
    (rest : List Char) : lineFeedsBefore (char :: rest) offset = 0 := by
  have length := String.length_utf8EncodeChar char
  rw [lineFeedsBefore, bytes_cons, List.take_append_of_le_length (by omega)]
  refine List.count_eq_zero.mpr fun member => ?_
  -- A line feed has one byte, so no offset lies behind the start of it and before its end.
  have isFeed := (mem_utf8EncodeChar_iff char).mp (List.mem_of_mem_take member)
  have single : '\n'.utf8Size = 1 := rfl
  rw [isFeed, single, Nat.lt_one_iff] at inside
  rw [inside, List.take_zero] at member
  cases member

theorem lineFeedsBefore_cons_of_le {char : Char} {offset : Nat} (beyond : char.utf8Size ≤ offset)
    (rest : List Char) :
    lineFeedsBefore (char :: rest) offset =
      (if char = '\n' then 1 else 0) + lineFeedsBefore rest (offset - char.utf8Size) := by
  have length := String.length_utf8EncodeChar char
  rw [lineFeedsBefore, bytes_cons, List.take_append, length, List.count_append,
    List.take_of_length_le (length ▸ beyond), count_utf8EncodeChar]
  rfl

end Text

/-- The line of a byte offset is one more than the number of line feeds before it. -/
theorem Position.line_ofOffset (text : List Char) (offset : Nat) :
    (Position.ofOffset text offset).line = 1 + Text.lineFeedsBefore text offset := by
  have counted : ∀ position : Position,
      (position.after text offset).line = position.line + Text.lineFeedsBefore text offset := by
    induction text generalizing offset with
    | nil =>
      intro position
      simp [Position.after, Text.lineFeedsBefore, Text.bytes]
    | cons char rest inductionHypothesis =>
      intro position
      rw [Position.after]
      split
      · rename_i inside
        rw [Text.lineFeedsBefore_cons_of_lt inside]
        rfl
      · rename_i beyond
        rw [inductionHypothesis, Text.lineFeedsBefore_cons_of_le (Nat.le_of_not_lt beyond),
          ← Nat.add_assoc, Position.advance]
        split <;> rfl
  exact counted Position.first

end ErrorLint
