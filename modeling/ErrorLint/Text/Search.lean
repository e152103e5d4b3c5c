/-
This file finds one text inside another. The first occurrence splits the text
into what stands before it and what stands after it; most of the small formats
of this library are read by such splits.
-/

namespace ErrorLint.Text

/-- Splits the text around the first occurrence of `needle`, which is in neither
part. -/
def splitFirst? (needle : List Char) : List Char → Option (List Char × List Char)
  | [] => if needle = [] then some ([], []) else none
  | char :: rest =>
    if needle.isPrefixOf (char :: rest) then
      some ([], (char :: rest).drop needle.length)
    else
      (splitFirst? needle rest).map fun parts => (char :: parts.1, parts.2)

/-- Whether `needle` occurs in the text. -/
def contains (needle text : List Char) : Bool :=
  (splitFirst? needle text).isSome

/-- The text up to the first occurrence of `needle`, or all of it. -/
def upTo (needle text : List Char) : List Char :=
  match splitFirst? needle text with
  | some (before, _) => before
  | none => text

/-- The pieces of the text between the separators. There is always one more
piece than there are separators. -/
def pieces (separator : Char) : List Char → List (List Char)
  | [] => [[]]
  | char :: rest =>
    if char = separator then
      [] :: pieces separator rest
    else
      match pieces separator rest with
      | [] => [[char]]
      | piece :: more => (char :: piece) :: more

/-- The part of the text after the last occurrence of `mark`, if it occurs. -/
def afterLast? (mark : Char) : List Char → Option (List Char)
  | [] => none
  | char :: rest =>
    match afterLast? mark rest with
    | some tail => some tail
    | none => if char = mark then some rest else none

/-! ### What a split says about the text -/

theorem eq_append_of_splitFirst? {needle text before after : List Char}
    (split : splitFirst? needle text = some (before, after)) :
    text = before ++ needle ++ after := by
  induction text generalizing before with
  | nil =>
    simp only [splitFirst?] at split
    split at split
    · rename_i empty
      simp_all
    · cases split
  | cons char rest inductionHypothesis =>
    simp only [splitFirst?] at split
    split at split
    · rename_i starts
      obtain ⟨tail, equal⟩ := List.isPrefixOf_iff_prefix.mp starts
      simp only [Option.some.injEq, Prod.mk.injEq] at split
      obtain ⟨rfl, rfl⟩ := split
      rw [← equal]
      simp
    · obtain ⟨⟨front, back⟩, inner, equal⟩ := Option.map_eq_some_iff.mp split
      simp only [Prod.mk.injEq] at equal
      obtain ⟨rfl, rfl⟩ := equal
      simp [inductionHypothesis inner]

/-- What follows an occurrence is shorter than the text by at least the
occurrence. -/
theorem length_after_le_of_splitFirst? {needle text before after : List Char}
    (split : splitFirst? needle text = some (before, after)) :
    after.length + needle.length ≤ text.length := by
  rw [eq_append_of_splitFirst? split]
  simp only [List.length_append]
  omega

end ErrorLint.Text
