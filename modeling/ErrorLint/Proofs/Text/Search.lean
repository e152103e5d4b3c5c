/-
This file says what searches and cuts find. A search for a needle is stated by where the
needle occurs: it fails if the needle occurs nowhere, and it splits the text at the occurrence
with nothing of another one before it. Two kinds of text need no look at the needle. Text
without the first character of the needle is passed over; so is text without the needle, if a
character comes next that is no part of the needle, since then no occurrence can begin in it
and end behind it.

The cuts are those by which small lists are read: up to a mark, between separators, after the
last mark, and without blanks at either end.
-/

import ErrorLint.Proofs.Text.LineFeeds
import ErrorLint.Text.Blank
import Mathlib.Data.List.Infix

namespace ErrorLint.Text

/-! ### Where a needle occurs -/

/-- An occurrence does not reach over a character that is no part of the needle. -/
theorem infix_append_cons_iff {needle : List Char} {char : Char} (absent : char ∉ needle)
    (present : needle ≠ []) (left right : List Char) :
    needle <:+: left ++ char :: right ↔ needle <:+: left ∨ needle <:+: right := by
  have noStart : ∀ part : List Char, part ≠ [] → part <+: char :: right → char ∈ part := by
    intro part nonempty starts
    obtain ⟨head, rest, rfl⟩ := List.exists_cons_of_ne_nil nonempty
    exact (List.cons_prefix_cons.mp starts).1 ▸ List.mem_cons_self
  rw [List.infix_append_iff, List.infix_cons_iff,
    or_iff_right fun starts => absent (noStart needle present starts)]
  constructor
  · rintro (inLeft | inRight | ⟨front, back, rfl, ends, starts⟩)
    · exact Or.inl inLeft
    · exact Or.inr inRight
    · by_cases whole : back = []
      · rw [whole, List.append_nil]
        exact Or.inl ends.isInfix
      · exact absurd (List.mem_append_right _ (noStart back whole starts)) absent
  · exact Or.imp_right Or.inl

/-! ### Splitting at the first occurrence -/

theorem splitFirst?_cons_of_mismatch {needle rest : List Char} {char : Char}
    (elsewhere : ¬needle <+: char :: rest) :
    splitFirst? needle (char :: rest) =
      (splitFirst? needle rest).map fun parts => (char :: parts.1, parts.2) := by
  rw [splitFirst?, if_neg (mt List.isPrefixOf_iff_prefix.mp elsewhere)]

theorem splitFirst?_append_self (needle text : List Char) :
    splitFirst? needle (needle ++ text) = some ([], text) := by
  have here : needle.isPrefixOf (needle ++ text) = true :=
    List.isPrefixOf_iff_prefix.mpr (List.prefix_append needle text)
  cases whole : needle ++ text with
  | nil =>
    obtain ⟨rfl, rfl⟩ := List.append_eq_nil_iff.mp whole
    rfl
  | cons char rest =>
    rw [splitFirst?, if_pos (whole ▸ here), ← whole, List.drop_left]

theorem splitFirst?_eq_none_iff {needle text : List Char} :
    splitFirst? needle text = none ↔ ¬needle <:+: text := by
  induction text with
  | nil => simp [splitFirst?]
  | cons char rest inductionHypothesis =>
    rw [List.infix_cons_iff, not_or, ← inductionHypothesis]
    by_cases starts : needle <+: char :: rest
    · obtain ⟨back, whole⟩ := starts
      rw [← whole, splitFirst?_append_self]
      exact iff_of_false (Option.some_ne_none _) fun apart => apart.1 ⟨back, rfl⟩
    · rw [splitFirst?_cons_of_mismatch starts, Option.map_eq_none_iff]
      exact (and_iff_right starts).symm

theorem contains_iff_infix {needle text : List Char} :
    contains needle text = true ↔ needle <:+: text := by
  rw [contains, Option.isSome_iff_ne_none, ne_eq, splitFirst?_eq_none_iff, not_not]

/-- A text is split at an occurrence if no other one is before it. -/
theorem splitFirst?_of_first {needle before after : List Char}
    (first : ∀ front back, before ++ needle ++ after = front ++ needle ++ back →
      before.length ≤ front.length) :
    splitFirst? needle (before ++ needle ++ after) = some (before, after) := by
  induction before with
  | nil => exact splitFirst?_append_self needle after
  | cons char rest inductionHypothesis =>
    have elsewhere : ¬needle <+: char :: (rest ++ needle ++ after) := by
      rintro ⟨back, whole⟩
      exact absurd (first [] back whole.symm) (by simp)
    have rested := inductionHypothesis fun front back same => by
      have longer := first (char :: front) back (congrArg (char :: ·) same)
      simpa using longer
    rw [List.cons_append, List.cons_append, splitFirst?_cons_of_mismatch elsewhere, rested]
    rfl

/-- A text is the front of a needle if the needle is met nowhere before the text has ended, not
even where it would end in the needle that follows. -/
def IsFront (needle front : List Char) : Prop :=
  ∀ before after, front ++ needle = before ++ needle ++ after → before = front

/-- Every occurrence stands behind the front of the first one. -/
theorem IsFront.length_le {needle front back before after : List Char}
    (isFront : IsFront needle front)
    (same : front ++ needle ++ back = before ++ needle ++ after) :
    front.length ≤ before.length := by
  by_contra earlier
  rw [Nat.not_le] at earlier
  -- An occurrence that begins in the front ends before the needle behind the front does.
  have short : before ++ needle <+: front ++ needle := by
    refine List.prefix_of_prefix_length_le ⟨after, same.symm⟩ (List.prefix_append _ back) ?_
    rw [List.length_append, List.length_append]
    omega
  obtain ⟨rest, whole⟩ := short
  rw [isFront before rest whole.symm] at earlier
  exact Nat.lt_irrefl _ earlier

/-- The search splits a text at a needle whose front has no other one. -/
theorem splitFirst?_eq_some_iff {needle text front back : List Char} :
    splitFirst? needle text = some (front, back) ↔
      IsFront needle front ∧ text = front ++ needle ++ back := by
  constructor
  · intro split
    refine ⟨?_, eq_append_of_splitFirst? split⟩
    induction text generalizing front with
    | nil =>
      intro before after same
      rw [splitFirst?] at split
      split at split
      · rename_i empty
        obtain ⟨rfl, rfl⟩ := Prod.mk.inj (Option.some.inj split)
        rw [empty, List.append_nil, List.append_nil] at same
        exact (List.append_eq_nil_iff.mp same.symm).1
      · cases split
    | cons char rest inductionHypothesis =>
      by_cases starts : needle <+: char :: rest
      · obtain ⟨tail, whole⟩ := starts
        rw [← whole, splitFirst?_append_self] at split
        obtain ⟨rfl, rfl⟩ := Prod.mk.inj (Option.some.inj split)
        intro before after same
        have lengths := congrArg List.length same
        simp only [List.length_append, List.length_nil] at lengths
        exact List.eq_nil_of_length_eq_zero (by omega)
      · rw [splitFirst?_cons_of_mismatch starts] at split
        obtain ⟨⟨inner, left⟩, found, equal⟩ := Option.map_eq_some_iff.mp split
        obtain ⟨rfl, rfl⟩ := Prod.mk.inj equal
        intro before after same
        cases before with
        | nil =>
          have later : inner ++ needle <+: rest :=
            ⟨left, (eq_append_of_splitFirst? found).symm⟩
          have early : needle <+: char :: (inner ++ needle) := ⟨after, same.symm⟩
          exact absurd (early.trans (List.cons_prefix_cons.mpr ⟨rfl, later⟩)) starts
        | cons first more =>
          obtain ⟨rfl, sameRest⟩ := List.cons.inj same
          rw [inductionHypothesis found more after sameRest]
  · rintro ⟨isFront, rfl⟩
    exact splitFirst?_of_first fun before after same => isFront.length_le same

/-- The first occurrence stays the first one if the text goes on. -/
theorem splitFirst?_append_of_some {needle text : List Char} {parts : List Char × List Char}
    (found : splitFirst? needle text = some parts) (more : List Char) :
    splitFirst? needle (text ++ more) = some (parts.1, parts.2 ++ more) := by
  obtain ⟨isFront, rfl⟩ := splitFirst?_eq_some_iff.mp found
  exact splitFirst?_eq_some_iff.mpr ⟨isFront, List.append_assoc _ _ _⟩

/-- A text without the first character of a needle is passed over in the search. -/
theorem splitFirst?_append_of_notMem {mark : Char} (more : List Char) {front : List Char}
    (absent : mark ∉ front) (text : List Char) :
    splitFirst? (mark :: more) (front ++ text) =
      (splitFirst? (mark :: more) text).map fun parts => (front ++ parts.1, parts.2) := by
  induction front with
  | nil =>
    show _ = (splitFirst? (mark :: more) text).map id
    rw [Option.map_id_fun, id_eq, List.nil_append]
  | cons char rest inductionHypothesis =>
    rw [List.mem_cons, not_or] at absent
    obtain ⟨different, absentRest⟩ := absent
    have elsewhere : ¬mark :: more <+: char :: (rest ++ text) := fun starts =>
      different (List.cons_prefix_cons.mp starts).1
    rw [List.cons_append, splitFirst?_cons_of_mismatch elsewhere,
      inductionHypothesis absentRest, Option.map_map]
    rfl

/-- A text without the needle is passed over if what comes next is no part of the needle. -/
theorem splitFirst?_append_cons {needle : List Char} {char : Char} (absent : char ∉ needle)
    {front : List Char} (apart : ¬needle <:+: front) (text : List Char) :
    splitFirst? needle (front ++ char :: text) =
      (splitFirst? needle text).map fun parts => (front ++ char :: parts.1, parts.2) := by
  have notHere : ∀ part : List Char, ¬needle <:+: part → ¬needle <+: part ++ char :: text := by
    intro part inside starts
    have reached : part ++ [char] <+: part ++ char :: text :=
      (List.prefix_append_right_inj part).mpr (List.prefix_append [char] text)
    rcases List.prefix_or_prefix_of_prefix starts reached with short | long
    · rcases List.prefix_concat_iff.mp short with whole | early
      · exact absent (whole ▸ List.mem_append_right _ List.mem_cons_self)
      · exact inside early.isInfix
    · exact absent (long.subset (List.mem_append_right _ List.mem_cons_self))
  induction front with
  | nil => exact splitFirst?_cons_of_mismatch (notHere [] apart)
  | cons first rest inductionHypothesis =>
    have apartRest : ¬needle <:+: rest := fun inside => apart (List.infix_cons inside)
    have elsewhere : ¬needle <+: first :: (rest ++ char :: text) := notHere (first :: rest) apart
    rw [List.cons_append, splitFirst?_cons_of_mismatch elsewhere,
      inductionHypothesis apartRest, Option.map_map]
    rfl

/-- A character that is not part of the needle changes nothing about its first occurrence. -/
theorem splitFirst?_append_singleton {needle : List Char} {char : Char} (absent : char ∉ needle)
    (present : needle ≠ []) (text : List Char) :
    splitFirst? needle (text ++ [char]) =
      (splitFirst? needle text).map fun parts => (parts.1, parts.2 ++ [char]) := by
  have noMatch : ∀ front : List Char, needle ≠ front ++ [char] := by
    rintro front rfl
    exact absent (List.mem_append_right _ List.mem_cons_self)
  induction text with
  | nil =>
    have notFound : needle.isPrefixOf [char] = false := by
      refine Bool.eq_false_iff.mpr fun starts => ?_
      rcases List.prefix_concat_iff.mp (List.isPrefixOf_iff_prefix.mp starts :
        needle <+: [] ++ [char]) with whole | inside
      · exact noMatch [] whole
      · exact present (List.prefix_nil.mp inside)
    simp [splitFirst?, notFound, present]
  | cons first rest inductionHypothesis =>
    have same :
        needle.isPrefixOf (first :: rest ++ [char]) = needle.isPrefixOf (first :: rest) := by
      rw [Bool.eq_iff_iff, List.isPrefixOf_iff_prefix, List.isPrefixOf_iff_prefix,
        List.prefix_concat_iff]
      exact or_iff_right (noMatch _)
    rw [List.cons_append, splitFirst?, splitFirst?, ← List.cons_append, same]
    split
    · rename_i starts
      have fits := (List.isPrefixOf_iff_prefix.mp starts).length_le
      rw [List.drop_append_of_le_length fits]
      rfl
    · rw [inductionHypothesis, Option.map_map, Option.map_map]
      rfl

/-! ### Cutting -/

theorem upTo_of_not_infix {needle text : List Char} (apart : ¬needle <:+: text) :
    upTo needle text = text := by
  rw [upTo, splitFirst?_eq_none_iff.mpr apart]

/-- Behind an occurrence nothing is looked at. -/
theorem upTo_append_of_infix {needle front : List Char} (inside : needle <:+: front)
    (text : List Char) : upTo needle (front ++ text) = upTo needle front := by
  cases found : splitFirst? needle front with
  | none => exact absurd inside (splitFirst?_eq_none_iff.mp found)
  | some parts =>
    rw [upTo, upTo, splitFirst?_append_of_some found, found]

/-- A text without a mark is kept if what comes next is no part of the mark. -/
theorem upTo_append_cons_of_not_infix {needle : List Char} {char : Char} (absent : char ∉ needle)
    {front : List Char} (apart : ¬needle <:+: front) (text : List Char) :
    upTo needle (front ++ char :: text) = front ++ char :: upTo needle text := by
  unfold upTo
  rw [splitFirst?_append_cons absent apart]
  cases splitFirst? needle text <;> rfl

/-- A text without a mark is what stands before the mark, if what comes between is no part of
it. -/
theorem upTo_append_cons {needle : List Char} {char : Char} (absent : char ∉ needle)
    {front : List Char} (apart : ¬needle <:+: front) (text : List Char) :
    upTo needle (front ++ char :: (needle ++ text)) = front ++ [char] := by
  rw [upTo, splitFirst?_append_cons absent apart, splitFirst?_append_self]
  rfl

theorem upTo_append_singleton {needle : List Char} {char : Char} (absent : char ∉ needle)
    (present : needle ≠ []) (text : List Char) :
    upTo needle (text ++ [char]) = upTo needle text ∨
      upTo needle (text ++ [char]) = upTo needle text ++ [char] := by
  unfold upTo
  rw [splitFirst?_append_singleton absent present]
  cases splitFirst? needle text with
  | none => exact Or.inr rfl
  | some parts => exact Or.inl rfl

theorem pieces_append_singleton {separator char : Char} (different : char ≠ separator)
    (text : List Char) :
    ∃ front last, pieces separator text = front ++ [last] ∧
      pieces separator (text ++ [char]) = front ++ [last ++ [char]] := by
  induction text with
  | nil => exact ⟨[], [], rfl, pieces_cons_of_ne different rfl⟩
  | cons first rest inductionHypothesis =>
    obtain ⟨front, last, split, extended⟩ := inductionHypothesis
    by_cases same : first = separator
    · refine ⟨[] :: front, last, ?_, ?_⟩
      · rw [pieces, if_pos same, split]
        rfl
      · rw [List.cons_append, pieces, if_pos same, extended]
        rfl
    · cases front with
      | nil =>
        exact ⟨[], first :: last, pieces_cons_of_ne same split, pieces_cons_of_ne same extended⟩
      | cons piece others =>
        exact ⟨(first :: piece) :: others, last, pieces_cons_of_ne same split,
          pieces_cons_of_ne same extended⟩

/-- A blank at the end is trimmed. -/
theorem trim_append_singleton {char : Char} (blank : isBlank char = true) (text : List Char) :
    trim (text ++ [char]) = trim text := by
  have trimmedEnd : ∀ rest : List Char, trimEnd (rest ++ [char]) = trimEnd rest := by
    intro rest
    rw [trimEnd, List.reverse_append, List.reverse_singleton, List.singleton_append,
      List.dropWhile_cons_of_pos blank, trimEnd]
  unfold trim trimStart
  rw [List.dropWhile_append]
  split
  · rename_i allBlank
    rw [List.isEmpty_iff.mp allBlank, List.dropWhile_cons_of_pos blank]
    rfl
  · exact trimmedEnd _

/-- A blank at the start is trimmed. -/
theorem trim_cons {char : Char} (blank : isBlank char = true) (text : List Char) :
    trim (char :: text) = trim text := by
  rw [trim, trimStart, List.dropWhile_cons_of_pos blank]
  rfl

/-- A blank at the end changes none of the pieces but for the blanks around them. -/
theorem map_trim_pieces_append_singleton {separator char : Char} (different : char ≠ separator)
    (blank : isBlank char = true) (text : List Char) :
    (pieces separator (text ++ [char])).map trim = (pieces separator text).map trim := by
  obtain ⟨front, last, split, extended⟩ := pieces_append_singleton different text
  rw [split, extended, List.map_append, List.map_append, List.map_singleton, List.map_singleton,
    trim_append_singleton blank]

theorem afterLast?_eq_none_iff {mark : Char} {text : List Char} :
    afterLast? mark text = none ↔ mark ∉ text := by
  induction text with
  | nil => simp [afterLast?]
  | cons char rest inductionHypothesis =>
    rw [List.mem_cons, not_or, ← inductionHypothesis, afterLast?]
    cases afterLast? mark rest with
    | some tail => simp
    | none => simp [eq_comm]

/-- What stands after the last mark has none itself. -/
theorem afterLast?_eq_some_iff {mark : Char} {text tail : List Char} :
    afterLast? mark text = some tail ↔
      mark ∉ tail ∧ ∃ front, text = front ++ mark :: tail := by
  constructor
  · intro found
    induction text with
    | nil => cases found
    | cons char rest inductionHypothesis =>
      rw [afterLast?] at found
      cases later : afterLast? mark rest with
      | some other =>
        rw [later] at found
        obtain ⟨absent, front, joined⟩ := inductionHypothesis (later.trans found)
        exact ⟨absent, char :: front, congrArg (char :: ·) joined⟩
      | none =>
        rw [later] at found
        dsimp only at found
        split at found
        · rename_i same
          obtain rfl := Option.some.inj found
          exact ⟨afterLast?_eq_none_iff.mp later, [], congrArg (· :: rest) same⟩
        · cases found
  · rintro ⟨absent, front, rfl⟩
    induction front with
    | nil => rw [List.nil_append, afterLast?, afterLast?_eq_none_iff.mpr absent]; exact if_pos rfl
    | cons char rest inductionHypothesis =>
      rw [List.cons_append, afterLast?, inductionHypothesis]

end ErrorLint.Text
