/-
This file orders positions as they are read: by line, and within a line by column. A position is
found by walking over a text, and every byte of the walk leads to a later position, be it inside
a character, at a line feed, or behind the end. So of two offsets the larger one has the later
position, in every text, and comparing positions is comparing offsets.
-/

import ErrorLint.Text.Span

namespace ErrorLint.Position

/-- A position comes before another one: on an earlier line, or further left on its line. -/
def Before (left right : Position) : Prop :=
  left.line < right.line ∨ left.line = right.line ∧ left.column < right.column

theorem le_iff_not_before {left right : Position} :
    left.le right = true ↔ ¬right.Before left := by
  rw [le, Bool.or_eq_true, decide_eq_true_eq, Bool.and_eq_true, decide_eq_true_eq,
    decide_eq_true_eq, Before]
  omega

theorem Before.of_before_of_le {left middle right : Position} (first : left.Before middle)
    (second : middle.le right = true) : left.Before right := by
  rw [le_iff_not_before, Before] at second
  unfold Before at first ⊢
  omega

theorem Before.le {left right : Position} (before : left.Before right) :
    left.le right = true := by
  rw [le_iff_not_before]
  unfold Before at before ⊢
  omega

/-- Further right on one line is no earlier. -/
theorem le_add_column (position : Position) (offset : Nat) :
    position.le ⟨position.line, position.column + offset⟩ = true := by
  rw [le_iff_not_before, Before]
  dsimp only
  omega

/-! ### Walking over a text -/

/-- Every byte of a character is before what follows the character. -/
theorem before_advance (position : Position) {char : Char} {offset : Nat}
    (inside : offset < char.utf8Size) :
    Before ⟨position.line, position.column + offset⟩ (position.advance char) := by
  unfold advance
  split
  · exact Or.inl (Nat.lt_succ_self _)
  · exact Or.inr ⟨rfl, Nat.add_lt_add_left inside _⟩

/-- A walk does not lead back. -/
theorem le_after (position : Position) (text : List Char) (offset : Nat) :
    position.le (position.after text offset) = true := by
  induction text generalizing position offset with
  | nil => exact position.le_add_column offset
  | cons char rest inductionHypothesis =>
    rw [after]
    split
    · exact position.le_add_column offset
    · have start := position.before_advance char.utf8Size_pos
      exact (start.of_before_of_le (inductionHypothesis (position.advance char) _)).le

/-- A longer walk leads further. -/
theorem before_after {first second : Nat} (shorter : first < second) (position : Position)
    (text : List Char) : (position.after text first).Before (position.after text second) := by
  induction text generalizing position first second with
  | nil => exact Or.inr ⟨rfl, Nat.add_lt_add_left shorter _⟩
  | cons char rest inductionHypothesis =>
    rw [after, after]
    by_cases firstInside : first < char.utf8Size
    · rw [if_pos firstInside]
      split
      · exact Or.inr ⟨rfl, Nat.add_lt_add_left shorter _⟩
      · exact (position.before_advance firstInside).of_before_of_le (le_after _ _ _)
    · rw [if_neg firstInside, if_neg (by omega)]
      exact inductionHypothesis (by omega) (position.advance char)

/-- Positions are ordered like the offsets to which they belong, whatever the text. -/
theorem le_ofOffset_iff {text : List Char} {first second : Nat} :
    (ofOffset text first).le (ofOffset text second) = true ↔ first ≤ second := by
  constructor
  · intro ordered
    refine Nat.le_of_not_lt fun later => ?_
    exact le_iff_not_before.mp ordered (before_after later Position.first text)
  · intro ordered
    rcases Nat.lt_or_eq_of_le ordered with shorter | rfl
    · exact (before_after shorter Position.first text).le
    · exact le_add_column _ 0

/-- A walk counts at most as many lines and columns as bytes. -/
theorem line_add_column_after_le (position : Position) (text : List Char) (offset : Nat)
    (counted : 1 ≤ position.column) :
    1 ≤ (position.after text offset).column ∧ position.line ≤ (position.after text offset).line ∧
      (position.after text offset).line + (position.after text offset).column ≤
        position.line + position.column + offset := by
  induction text generalizing position offset with
  | nil =>
    dsimp only [after]
    omega
  | cons char rest inductionHypothesis =>
    rw [after]
    split
    · dsimp only
      omega
    · have positive := char.utf8Size_pos
      have moved : 1 ≤ (position.advance char).column ∧
          position.line ≤ (position.advance char).line ∧
          (position.advance char).line + (position.advance char).column ≤
            position.line + position.column + char.utf8Size := by
        unfold advance
        split <;> dsimp only <;> omega
      have onward := inductionHypothesis (position.advance char) (offset - char.utf8Size) moved.1
      omega

/-- Neither the line nor the column of an offset is larger than the number of bytes up to it. -/
theorem line_column_ofOffset_le (text : List Char) (offset : Nat) :
    (ofOffset text offset).line ≤ offset + 1 ∧ (ofOffset text offset).column ≤ offset + 1 := by
  have bounds := line_add_column_after_le Position.first text offset (Nat.le_refl 1)
  have start : Position.first.line = 1 ∧ Position.first.column = 1 := ⟨rfl, rfl⟩
  unfold ofOffset
  omega

end ErrorLint.Position
