/-
This file fixes how byte offsets address a text. A text is a list of characters,
an offset counts the bytes of its UTF-8 form, and only some offsets fall between
two characters. Cutting at such an offset loses nothing: the two parts put
together are the text again, and the first part is as long as the offset says.
-/

namespace ErrorLint.Text

/-- The number of bytes that the text takes in UTF-8. -/
def byteLength : List Char → Nat
  | [] => 0
  | char :: rest => char.utf8Size + byteLength rest

/-- Cuts the text at a byte offset. There is no cut inside a character or past
the end. -/
def splitAt? : List Char → Nat → Option (List Char × List Char)
  | text, 0 => some ([], text)
  | [], _ + 1 => none
  | char :: rest, offset + 1 =>
    if char.utf8Size ≤ offset + 1 then
      (splitAt? rest (offset + 1 - char.utf8Size)).map fun parts => (char :: parts.1, parts.2)
    else
      none

/-- An offset is a boundary if the text can be cut there. -/
def isBoundary (text : List Char) (offset : Nat) : Bool :=
  (splitAt? text offset).isSome

/-- The part of the text between two byte offsets, if both are boundaries and
stand in order. -/
def slice? (text : List Char) (start stop : Nat) : Option (List Char) := do
  guard (start ≤ stop)
  let (_, rest) ← splitAt? text start
  let (part, _) ← splitAt? rest (stop - start)
  return part

/-! ### Cutting loses nothing -/

@[simp]
theorem byteLength_nil : byteLength [] = 0 := rfl

@[simp]
theorem byteLength_cons (char : Char) (rest : List Char) :
    byteLength (char :: rest) = char.utf8Size + byteLength rest := rfl

@[simp]
theorem byteLength_append (left right : List Char) :
    byteLength (left ++ right) = byteLength left + byteLength right := by
  induction left with
  | nil => simp
  | cons char rest inductionHypothesis => simp [inductionHypothesis, Nat.add_assoc]

theorem eq_append_of_splitAt? {text before after : List Char} {offset : Nat}
    (cut : splitAt? text offset = some (before, after)) :
    text = before ++ after ∧ byteLength before = offset := by
  induction text generalizing offset before with
  | nil =>
    cases offset with
    | zero => simp_all [splitAt?]
    | succ offset => simp [splitAt?] at cut
  | cons char rest inductionHypothesis =>
    cases offset with
    | zero => simp_all [splitAt?]
    | succ offset =>
      simp only [splitAt?] at cut
      split at cut
      · obtain ⟨⟨front, back⟩, inner, equal⟩ := Option.map_eq_some_iff.mp cut
        simp only [Prod.mk.injEq] at equal
        obtain ⟨rfl, rfl⟩ := equal
        obtain ⟨joined, length⟩ := inductionHypothesis inner
        refine ⟨by simp [joined], ?_⟩
        simp only [byteLength_cons, length]
        omega
      · cases cut

theorem splitAt?_append (before after : List Char) :
    splitAt? (before ++ after) (byteLength before) = some (before, after) := by
  induction before with
  | nil => cases after <;> rfl
  | cons char rest inductionHypothesis =>
    have positive := char.utf8Size_pos
    obtain ⟨offset, equal⟩ : ∃ offset, char.utf8Size + byteLength rest = offset + 1 :=
      ⟨char.utf8Size + byteLength rest - 1, by omega⟩
    have fits : char.utf8Size ≤ offset + 1 := by omega
    have remaining : offset + 1 - char.utf8Size = byteLength rest := by omega
    simp only [byteLength_cons, List.cons_append, equal, splitAt?, if_pos fits, remaining,
      inductionHypothesis, Option.map_some]

/-- A cut exists exactly where a first part of that many bytes exists. -/
theorem splitAt?_eq_some_iff {text before after : List Char} {offset : Nat} :
    splitAt? text offset = some (before, after) ↔
      text = before ++ after ∧ byteLength before = offset := by
  constructor
  · exact eq_append_of_splitAt?
  · rintro ⟨rfl, rfl⟩
    exact splitAt?_append before after

end ErrorLint.Text
