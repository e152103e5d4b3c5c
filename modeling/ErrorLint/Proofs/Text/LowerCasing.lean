/-
This file says what a lower-case form of a text is. Every character is lowered by itself, but
for one: a capital sigma becomes the small sigma of the end of a word or the one of its middle,
whichever fits what stands around it. A text has therefore several lower-case forms, and they
differ in nothing but these two letters. A needle that has no sigma is found in all of them or
in none, so it does not matter which rule chooses between the two.

Two spellings of a text that differ in the case of ASCII letters have the same form, and what
stands inside a text has its form inside the form of the text.
-/

import ErrorLint.Text.LowerCase
import Mathlib.Data.List.Infix

namespace ErrorLint.Text

/-! ### Lower-case forms -/

/-- A character is lowered to its own form, and a capital sigma may also become a final one. -/
def LowersTo (char : Char) (image : List Char) : Prop :=
  image = lowerChar char ∨ char = 'Σ' ∧ image = ['ς']

/-- A lower-case form of a text joins the forms of its characters. -/
inductive IsLowerForm : List Char → List Char → Prop where
  | nil : IsLowerForm [] []
  | cons {char : Char} {image rest lowered : List Char} (first : LowersTo char image)
    (others : IsLowerForm rest lowered) : IsLowerForm (char :: rest) (image ++ lowered)

theorem isLowerForm_lower (text : List Char) : IsLowerForm text (lower text) := by
  induction text with
  | nil => exact .nil
  | cons char rest inductionHypothesis => exact .cons (Or.inl rfl) inductionHypothesis

/-- The lower-case form that ends a word in the final sigma. A word is what stands between
spaces, and a sigma alone is no end. -/
def lowerFinal (inWord : Bool) : List Char → List Char
  | [] => []
  | char :: rest =>
    (if char = 'Σ' ∧ inWord ∧ rest.head?.all (· = ' ') then ['ς'] else lowerChar char) ++
      lowerFinal (char ≠ ' ') rest

theorem isLowerForm_lowerFinal (inWord : Bool) (text : List Char) :
    IsLowerForm text (lowerFinal inWord text) := by
  induction text generalizing inWord with
  | nil => exact .nil
  | cons char rest inductionHypothesis =>
    refine .cons ?_ (inductionHypothesis _)
    split
    · rename_i final
      exact Or.inr ⟨final.1, rfl⟩
    · exact Or.inl rfl

/-! ### Needles without a sigma -/

/-- Takes the final sigma for the other one. -/
def joinSigma (char : Char) : Char := if char = 'ς' then 'σ' else char

/-- All lower-case forms of a text agree up to the two sigmas. -/
theorem IsLowerForm.map_joinSigma {text lowered : List Char} (form : IsLowerForm text lowered) :
    lowered.map joinSigma = (lower text).map joinSigma := by
  induction form with
  | nil => rfl
  | @cons char image rest lowered first others inductionHypothesis =>
    have image : image.map joinSigma = (lowerChar char).map joinSigma := by
      rcases first with rfl | ⟨rfl, rfl⟩
      · rfl
      · decide
    rw [lower, List.flatMap_cons, List.map_append, List.map_append, image]
    exact congrArg _ inductionHypothesis

/-- A needle is found behind a replacement of characters if and only if it was there before,
provided that its own characters stay and no others become one of them. -/
theorem infix_map_iff {replace : Char → Char} {needle text : List Char}
    (kept : ∀ char ∈ needle, ∀ other, replace other = char ↔ other = char) :
    needle <:+: text.map replace ↔ needle <:+: text := by
  constructor
  · rintro ⟨front, back, joined⟩
    obtain ⟨start, rest, rfl, joinedStart, -⟩ := List.map_eq_append_iff.mp joined.symm
    obtain ⟨before, part, rfl, -, replaced⟩ := List.map_eq_append_iff.mp joinedStart
    have same : part = part.map replace := by
      conv_lhs => rw [← List.map_id part]
      refine List.map_congr_left fun char member => ?_
      have inNeedle : replace char ∈ needle := replaced ▸ List.mem_map_of_mem member
      exact (kept _ inNeedle char).mp rfl
    rw [← replaced, ← same]
    exact List.infix_append before part rest
  · intro inside
    have same : needle.map replace = needle := by
      conv_rhs => rw [← List.map_id needle]
      exact List.map_congr_left fun char member => (kept char member char).mpr rfl
    have mapped := inside.map replace
    rwa [same] at mapped

/-- A needle without a sigma is found in every lower-case form of a text or in none. -/
theorem IsLowerForm.infix_iff {text lowered needle : List Char} (form : IsLowerForm text lowered)
    (noMiddle : 'σ' ∉ needle) (noFinal : 'ς' ∉ needle) :
    needle <:+: lowered ↔ needle <:+: lower text := by
  have kept : ∀ char ∈ needle, ∀ other, joinSigma other = char ↔ other = char := by
    intro char member other
    have notMiddle : char ≠ 'σ' := ne_of_mem_of_not_mem member noMiddle
    have notFinal : char ≠ 'ς' := ne_of_mem_of_not_mem member noFinal
    unfold joinSigma
    split
    · rename_i isFinal
      rw [isFinal]
      exact iff_of_false notMiddle.symm notFinal.symm
    · exact Iff.rfl
  rw [← infix_map_iff kept, form.map_joinSigma, infix_map_iff kept]

/-! ### The case of ASCII letters -/

/-- Two texts are alike if they differ in the case of ASCII letters only. -/
def AlikeInCase (left right : List Char) : Prop := left.map Char.toLower = right.map Char.toLower

instance (left right : List Char) : Decidable (AlikeInCase left right) :=
  inferInstanceAs (Decidable (_ = _))

theorem toNat_toLower (char : Char) :
    char.toLower.toNat =
      if 65 ≤ char.toNat ∧ char.toNat ≤ 90 then char.toNat + 32 else char.toNat := by
  have capital : (char.val ≥ 'A'.val ∧ char.val ≤ 'Z'.val) ↔ 65 ≤ char.toNat ∧ char.toNat ≤ 90 :=
    Iff.rfl
  unfold Char.toLower
  split
  · rename_i isCapital
    have bound : char.val.toNat ≤ 90 := isCapital.2
    have fits : char.val.toNat + 32 < 2 ^ 32 := by omega
    rw [if_pos (capital.mp isCapital)]
    show (char.val + 32).toNat = char.val.toNat + 32
    rw [UInt32.toNat_add]
    exact Nat.mod_eq_of_lt fits
  · rename_i notCapital
    rw [if_neg (mt capital.mpr notCapital)]

/-- The form of a character is that of its small letter. -/
theorem lowerChar_toLower (char : Char) : lowerChar char.toLower = lowerChar char := by
  have small := toNat_toLower char
  have stays : ¬(65 ≤ char.toNat ∧ char.toNat ≤ 90) → char.toLower = char := by
    intro notCapital
    rw [if_neg notCapital] at small
    exact Char.toNat_inj.mp small
  by_cases capital : 65 ≤ char.toNat ∧ char.toNat ≤ 90
  · rw [if_pos capital] at small
    have again : char.toLower.toLower = char.toLower := by
      refine Char.toNat_inj.mp ?_
      rw [toNat_toLower, if_neg (by omega)]
    rw [lowerChar, if_pos (by omega), lowerChar, if_pos (by omega), again]
  · rw [stays capital]

theorem lower_map_toLower (text : List Char) : lower (text.map Char.toLower) = lower text := by
  rw [lower, List.flatMap_map]
  exact List.flatMap_congr fun char _ => lowerChar_toLower char

/-- Spellings that are alike have the same form. -/
theorem AlikeInCase.lower_eq {left right : List Char} (alike : AlikeInCase left right) :
    lower left = lower right := by
  rw [← lower_map_toLower left, alike, lower_map_toLower]

/-! ### Parts of a text -/

/-- What stands inside a text has its form inside the form of the text. -/
theorem lower_infix {part text : List Char} (inside : part <:+: text) :
    lower part <:+: lower text := by
  obtain ⟨front, back, rfl⟩ := inside
  exact ⟨lower front, lower back, by simp only [lower, List.flatMap_append]⟩

end ErrorLint.Text
