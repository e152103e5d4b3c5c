/-
This file groups items by a key. Filing is done one item after the other: the group of an item
is looked for, and opened at the end if it is missing. What comes out is a grouping that can be
told from the items alone. The keys stand in the order in which they are first seen, and a key
has the items that carry it, in their order.
-/

import Mathlib.Data.List.Induction

namespace ErrorLint

namespace Grouping

variable {Item Key Group : Type} [DecidableEq Key]

/-! ### Keys in the order in which they are first seen -/

/-- The keys of items in the order in which they are first seen. -/
def firstSeen (key : Item → Key) (items : List Item) : List Key := (items.map key).eraseDups

section

variable {key : Item → Key} {items : List Item}

theorem mem_firstSeen {asked : Key} :
    asked ∈ firstSeen key items ↔ ∃ item ∈ items, key item = asked := by
  rw [firstSeen, List.mem_eraseDups, List.mem_map]

/-- One more item adds its key at the end, unless the key has been seen. -/
theorem firstSeen_append_singleton (item : Item) :
    firstSeen key (items ++ [item]) =
      if key item ∈ firstSeen key items then firstSeen key items
      else firstSeen key items ++ [key item] := by
  have known : key item ∈ firstSeen key items ↔ key item ∈ items.map key := List.mem_eraseDups
  unfold firstSeen at known ⊢
  rw [List.map_append, List.eraseDups_append, List.map_singleton, List.removeAll]
  by_cases seen : key item ∈ items.map key
  · rw [if_pos (known.mpr seen), List.filter_cons_of_neg (by simpa using seen), List.filter_nil,
      List.eraseDups_nil, List.append_nil]
  · rw [if_neg (mt known.mp seen), List.filter_cons_of_pos (by simpa using seen), List.filter_nil,
      List.eraseDups_cons, List.filter_nil, List.eraseDups_nil]

theorem nodup_firstSeen : (firstSeen key items).Nodup := by
  induction items using List.reverseRecOn with
  | nil => exact List.nodup_nil
  | append_singleton items item inductionHypothesis =>
    rw [firstSeen_append_singleton]
    split
    · exact inductionHypothesis
    · rename_i fresh
      refine List.nodup_append.mpr ⟨inductionHypothesis, List.pairwise_singleton _ _, ?_⟩
      intro known present added isNew same
      rw [same, List.mem_singleton.mp isNew] at present
      exact fresh present

/-- A key stands before another one if one of its items comes before all items of the
other. -/
theorem pairwise_firstSeen {before : Item → Item → Prop} (sorted : items.Pairwise before) :
    (firstSeen key items).Pairwise fun first second =>
      ∃ item ∈ items, key item = first ∧
        ∀ other ∈ items, key other = second → before item other := by
  induction items using List.reverseRecOn with
  | nil => exact List.Pairwise.nil
  | append_singleton items item inductionHypothesis =>
    obtain ⟨sortedItems, -, last⟩ := List.pairwise_append.mp sorted
    have stillFirst : ∀ earlier ∈ items, ∀ second,
        (∀ other ∈ items, key other = second → before earlier other) →
          ∀ other ∈ items ++ [item], key other = second → before earlier other := by
      intro earlier member second comesFirst other inAll named
      rcases List.mem_append.mp inAll with old | new
      · exact comesFirst other old named
      · exact last earlier member other new
    have kept := (inductionHypothesis sortedItems).imp (S := fun first second =>
        ∃ earlier ∈ items ++ [item], key earlier = first ∧
          ∀ other ∈ items ++ [item], key other = second → before earlier other) (by
      rintro first second ⟨earlier, member, carries, comesFirst⟩
      exact ⟨earlier, List.mem_append_left _ member, carries,
        stillFirst earlier member second comesFirst⟩)
    rw [firstSeen_append_singleton]
    split
    · exact kept
    · rename_i fresh
      refine List.pairwise_append.mpr ⟨kept, List.pairwise_singleton _ _, ?_⟩
      intro first seen second isNew
      obtain ⟨earlier, member, carries⟩ := mem_firstSeen.mp seen
      -- No earlier item has the new key.
      refine ⟨earlier, List.mem_append_left _ member, carries,
        stillFirst earlier member second fun other old named => ?_⟩
      rw [List.mem_singleton.mp isNew] at named
      exact absurd (mem_firstSeen.mpr ⟨other, old, named⟩) fresh

end

/-! ### Filing one item -/

/-- Changes the group of a key, or opens it at the end if it is missing. -/
def file (keyOf : Group → Key) (asked : Key) (change : Group → Group) (opened : Group) :
    List Group → List Group
  | [] => [opened]
  | group :: rest =>
    if keyOf group = asked then change group :: rest
    else group :: file keyOf asked change opened rest

/-- The groups of items: for every key what its items amount to. -/
def groups (key : Item → Key) (summary : Key → List Item → Group) (items : List Item) :
    List Group :=
  (firstSeen key items).map fun asked => summary asked (items.filter (key · = asked))

section

variable {keyOf : Group → Key} {asked : Key} {change : Group → Group} {opened : Group}

theorem file_of_notMem {present : List Group} (missing : ∀ group ∈ present, keyOf group ≠ asked) :
    file keyOf asked change opened present = present ++ [opened] := by
  induction present with
  | nil => rfl
  | cons group rest inductionHypothesis =>
    rw [file, if_neg (missing group List.mem_cons_self),
      inductionHypothesis fun other later => missing other (List.mem_cons_of_mem _ later)]
    rfl

/-- If there is one group for every key, filing changes the group of the key that is asked
for. -/
theorem file_map {keys : List Key} (distinct : keys.Nodup) (present : asked ∈ keys)
    {group : Key → Group} (keyOf_group : ∀ known, keyOf (group known) = known) :
    file keyOf asked change opened (keys.map group) =
      keys.map fun known => if known = asked then change (group known) else group known := by
  induction keys with
  | nil => cases present
  | cons first rest inductionHypothesis =>
    obtain ⟨fresh, restDistinct⟩ := List.nodup_cons.mp distinct
    rw [List.map_cons, List.map_cons, file, keyOf_group]
    by_cases same : first = asked
    · subst same
      rw [if_pos rfl, if_pos rfl]
      refine congrArg _ (List.map_congr_left fun known later => (if_neg ?_).symm)
      rintro rfl
      exact fresh later
    · rw [if_neg same, if_neg same]
      have later : asked ∈ rest := (List.mem_cons.mp present).resolve_left (Ne.symm same)
      rw [inductionHypothesis restDistinct later]

variable {key : Item → Key} {summary : Key → List Item → Group} {items : List Item} {item : Item}

/-- Filing one more item gives the groups of all items, if changing a group means that its
items become one more. -/
theorem file_groups (keyOf_summary : ∀ known some, keyOf (summary known some) = known)
    (change_summary : ∀ earlier, change (summary (key item) earlier) =
      summary (key item) (earlier ++ [item]))
    (opened_eq : opened = summary (key item) [item]) :
    file keyOf (key item) change opened (groups key summary items) =
      groups key summary (items ++ [item]) := by
  have others : ∀ known, known ≠ key item →
      (items ++ [item]).filter (key · = known) = items.filter (key · = known) := by
    intro known different
    rw [List.filter_append, List.filter_cons_of_neg (by simpa using Ne.symm different),
      List.filter_nil, List.append_nil]
  have own : (items ++ [item]).filter (key · = key item) =
      items.filter (key · = key item) ++ [item] := by
    rw [List.filter_append, List.filter_cons_of_pos (by simp), List.filter_nil]
  -- A key that has been seen has a group to change, any other key has no items yet.
  unfold groups
  rw [firstSeen_append_singleton]
  split
  · rename_i seen
    rw [file_map nodup_firstSeen seen fun known => keyOf_summary known _]
    refine List.map_congr_left fun known _ => ?_
    split
    · rename_i same
      rw [same, own, change_summary]
    · rename_i different
      rw [others known different]
  · rename_i fresh
    have unseen : items.filter (key · = key item) = [] := by
      refine List.filter_eq_nil_iff.mpr fun other member named => fresh ?_
      exact mem_firstSeen.mpr ⟨other, member, of_decide_eq_true named⟩
    rw [file_of_notMem, List.map_append, List.map_singleton, own, unseen, List.nil_append,
      opened_eq]
    · refine congrArg (· ++ _) (List.map_congr_left fun known seen => ?_)
      rw [others known]
      rintro rfl
      exact fresh seen
    · intro group member
      obtain ⟨known, seen, rfl⟩ := List.mem_map.mp member
      rw [keyOf_summary]
      rintro rfl
      exact fresh seen

end

end Grouping

end ErrorLint
