/-
This file says what can be known about a text that is cut at several byte offsets.
Two boundaries that stand in order cut a text into three parts, and the part between
them is what a slice returns. Parts that meet at a boundary join to the part around
them, so a text can be taken apart at any ascending list of boundaries and put
together again. Everything that splices texts argues in these terms and never opens
`splitAt?` itself.
-/

import ErrorLint.Text.Offset
import ErrorLint.Text.Span
import Mathlib.Data.Option.Basic

namespace ErrorLint

namespace Text

/-! ### Boundaries -/

theorem isBoundary_iff {text : List Char} {offset : Nat} :
    isBoundary text offset = true ↔
      ∃ before after, text = before ++ after ∧ byteLength before = offset := by
  rw [isBoundary, Option.isSome_iff_exists]
  constructor
  · rintro ⟨⟨before, after⟩, cut⟩
    exact ⟨before, after, eq_append_of_splitAt? cut⟩
  · rintro ⟨before, after, joined⟩
    exact ⟨(before, after), splitAt?_eq_some_iff.mpr joined⟩

@[simp]
theorem isBoundary_zero (text : List Char) : isBoundary text 0 = true :=
  isBoundary_iff.mpr ⟨[], text, rfl, rfl⟩

@[simp]
theorem isBoundary_byteLength (text : List Char) : isBoundary text (byteLength text) = true :=
  isBoundary_iff.mpr ⟨text, [], by simp, rfl⟩

theorem le_byteLength_of_isBoundary {text : List Char} {offset : Nat}
    (boundary : isBoundary text offset = true) : offset ≤ byteLength text := by
  obtain ⟨before, after, rfl, rfl⟩ := isBoundary_iff.mp boundary
  rw [byteLength_append]
  exact Nat.le_add_right _ _

/-- Of two ways to cut one text, the earlier one cuts the first part of the later one. -/
theorem exists_middle {before after before' after' : List Char}
    (joined : before ++ after = before' ++ after')
    (ordered : byteLength before ≤ byteLength before') :
    ∃ middle, before' = before ++ middle ∧ after = middle ++ after' := by
  rcases List.append_eq_append_iff.mp joined with ⟨middle, first, second⟩ | ⟨middle, first, second⟩
  · exact ⟨middle, first, second⟩
  · -- The other order leaves a middle without bytes, and only the empty one has none.
    have empty : byteLength middle = 0 := by
      rw [first, byteLength_append] at ordered
      omega
    cases middle with
    | nil => exact ⟨[], by simpa using first.symm, by simpa using second.symm⟩
    | cons char rest =>
      have positive := char.utf8Size_pos
      rw [byteLength_cons] at empty
      omega

/-- Two boundaries in order cut the text into three parts. -/
theorem exists_parts {text : List Char} {start stop : Nat}
    (startBoundary : isBoundary text start = true) (stopBoundary : isBoundary text stop = true)
    (ordered : start ≤ stop) :
    ∃ before part after, text = before ++ (part ++ after) ∧ byteLength before = start ∧
      byteLength before + byteLength part = stop := by
  obtain ⟨before, rest, rfl, rfl⟩ := isBoundary_iff.mp startBoundary
  obtain ⟨front, after, joined, rfl⟩ := isBoundary_iff.mp stopBoundary
  obtain ⟨part, rfl, rfl⟩ := exists_middle joined ordered
  exact ⟨before, part, after, rfl, rfl, (byteLength_append before part).symm⟩

/-! ### The part between two offsets -/

/-- The part of a text between two byte offsets; nothing, if there is no such part. -/
def between (text : List Char) (start stop : Nat) : List Char :=
  (slice? text start stop).getD []

theorem between_parts (before part after : List Char) :
    between (before ++ (part ++ after)) (byteLength before)
      (byteLength before + byteLength part) = part := by
  have ordered : byteLength before ≤ byteLength before + byteLength part := Nat.le_add_right _ _
  simp [between, slice?, guard, ordered, splitAt?_append]

/-- Parts that meet at a boundary join. -/
theorem between_append_between {text : List Char} {first second third : Nat}
    (firstBoundary : isBoundary text first = true)
    (secondBoundary : isBoundary text second = true)
    (thirdBoundary : isBoundary text third = true)
    (firstLe : first ≤ second) (secondLe : second ≤ third) :
    between text first second ++ between text second third = between text first third := by
  obtain ⟨before, left, rest, rfl, rfl, rfl⟩ := exists_parts firstBoundary secondBoundary firstLe
  obtain ⟨front, after, joined, rfl⟩ := isBoundary_iff.mp thirdBoundary
  rw [← byteLength_append] at secondLe
  obtain ⟨right, rfl, rfl⟩ :=
    exists_middle (by rw [← joined, List.append_assoc]) secondLe
  have leftPart := between_parts before left (right ++ after)
  have rightPart := between_parts (before ++ left) right after
  have wholePart := between_parts before (left ++ right) after
  simp only [List.append_assoc, byteLength_append, ← Nat.add_assoc] at rightPart wholePart ⊢
  rw [leftPart, rightPart, wholePart]

@[simp]
theorem between_zero_byteLength (text : List Char) : between text 0 (byteLength text) = text := by
  have whole := between_parts [] text []
  rwa [List.nil_append, List.append_nil, byteLength_nil, Nat.zero_add] at whole

theorem byteLength_between {text : List Char} {start stop : Nat}
    (startBoundary : isBoundary text start = true) (stopBoundary : isBoundary text stop = true)
    (ordered : start ≤ stop) : byteLength (between text start stop) = stop - start := by
  obtain ⟨before, part, after, rfl, rfl, rfl⟩ :=
    exists_parts startBoundary stopBoundary ordered
  rw [between_parts]
  omega

/-- In front of a cut, a text agrees with every other text that starts alike. -/
theorem between_append_left (front back : List Char) :
    between (front ++ back) 0 (byteLength front) = front := by
  have whole := between_parts [] front back
  rwa [List.nil_append, byteLength_nil, Nat.zero_add] at whole

theorem between_append_right (front back : List Char) :
    between (front ++ back) (byteLength front) (byteLength (front ++ back)) = back := by
  have whole := between_parts front back []
  rwa [List.append_nil, ← byteLength_append] at whole

/-! ### Bytes of strings -/

theorem byteLength_eq_utf8ByteSize (source : String) :
    byteLength source.toList = source.utf8ByteSize := by
  have ofList : ∀ text : List Char, (String.ofList text).utf8ByteSize = byteLength text := by
    intro text
    induction text with
    | nil => rfl
    | cons char rest inductionHypothesis =>
      rw [← List.singleton_append, String.ofList_append, String.utf8ByteSize_append,
        inductionHypothesis, byteLength_append]
      simp
  rw [← ofList, String.ofList_toList]

end Text

/-- A span is valid for a text if it stands in order and both its ends are boundaries of
the text. -/
structure Span.Valid (text : List Char) (span : Span) : Prop where
  ordered : span.start ≤ span.stop
  startBoundary : Text.isBoundary text span.start = true
  stopBoundary : Text.isBoundary text span.stop = true

instance (text : List Char) (span : Span) : Decidable (span.Valid text) :=
  decidable_of_iff
    (span.start ≤ span.stop ∧ Text.isBoundary text span.start = true ∧
      Text.isBoundary text span.stop = true)
    ⟨fun ⟨ordered, first, second⟩ => ⟨ordered, first, second⟩,
      fun valid => ⟨valid.ordered, valid.startBoundary, valid.stopBoundary⟩⟩

namespace Text

/-- A slice can be taken exactly where a span is valid. -/
theorem isSome_slice?_iff {text : List Char} {start stop : Nat} :
    (slice? text start stop).isSome = true ↔ (Span.mk start stop).Valid text := by
  constructor
  · intro taken
    obtain ⟨part, found⟩ := Option.isSome_iff_exists.mp taken
    by_cases ordered : start ≤ stop
    · rw [slice?, guard, if_pos ordered, pure_bind] at found
      obtain ⟨⟨before, rest⟩, cut, found⟩ := Option.bind_eq_some_iff.mp found
      obtain ⟨⟨middle, after⟩, cutRest, -⟩ := Option.bind_eq_some_iff.mp found
      obtain ⟨rfl, rfl⟩ := eq_append_of_splitAt? cut
      obtain ⟨rfl, length⟩ := eq_append_of_splitAt? cutRest
      refine ⟨ordered, isBoundary_iff.mpr ⟨before, _, rfl, rfl⟩,
        isBoundary_iff.mpr ⟨before ++ middle, after, (List.append_assoc _ _ _).symm, ?_⟩⟩
      rw [byteLength_append, length]
      exact Nat.add_sub_of_le ordered
    · rw [slice?, guard, if_neg ordered] at found
      cases found
  · intro valid
    obtain ⟨before, part, after, rfl, rfl, rfl⟩ :=
      exists_parts valid.startBoundary valid.stopBoundary valid.ordered
    have ordered : byteLength before ≤ byteLength before + byteLength part :=
      Nat.le_add_right _ _
    simp [slice?, guard, ordered, splitAt?_append]

theorem slice?_of_valid {text : List Char} {start stop : Nat}
    (valid : (Span.mk start stop).Valid text) :
    slice? text start stop = some (between text start stop) := by
  obtain ⟨part, found⟩ := Option.isSome_iff_exists.mp (isSome_slice?_iff.mpr valid)
  rw [between, found]
  rfl

end Text

end ErrorLint
