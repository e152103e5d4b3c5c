/-
This file says that filing loses nothing and mixes nothing up. A sequence of insertions is
arbitrary: classes come back after others, classes share messages, and a site may come twice.
Still the index can be told from the sequence without any look at its slots, since these are
in step with the classes and their messages. Going through the classes in the order in which
they are first seen, and for each of them through its messages in theirs, one meets every pair
once, with the sites that were inserted for it.

Every insertion is in the group of its own pair and in no other one, so taking all groups
apart again gives the insertions back, up to their order.
-/

import ErrorLint.Proofs.Rule.Filing
import Mathlib.Data.List.Perm.Basic

namespace ErrorLint

namespace Grouping

variable {Item Key : Type} [DecidableEq Key] {key : Item → Key}

/-- Sorting items by keys that are distinct and cover all of them loses none and adds none. -/
theorem perm_flatMap_filter {keys : List Key} (distinct : keys.Nodup) {items : List Item}
    (covered : ∀ item ∈ items, key item ∈ keys) :
    (keys.flatMap fun asked => items.filter (key · = asked)).Perm items := by
  induction keys generalizing items with
  | nil =>
    have none : items = [] := List.eq_nil_iff_forall_not_mem.mpr fun item member =>
      List.not_mem_nil (covered item member)
    rw [none]
    exact List.Perm.refl []
  | cons first rest inductionHypothesis =>
    obtain ⟨fresh, restDistinct⟩ := List.nodup_cons.mp distinct
    have others : (rest.flatMap fun asked => items.filter (key · = asked)) =
        rest.flatMap fun asked =>
          (items.filter fun item => !decide (key item = first)).filter (key · = asked) := by
      refine List.flatMap_congr fun asked later => ?_
      rw [List.filter_filter]
      refine List.filter_congr fun item _ => ?_
      have different : asked ≠ first := fun same => fresh (same ▸ later)
      by_cases named : key item = asked
      · simp [named, different]
      · simp [named]
    have coveredRest : ∀ item ∈ items.filter (fun item => !decide (key item = first)),
        key item ∈ rest := by
      intro item member
      obtain ⟨inItems, notFirst⟩ := List.mem_filter.mp member
      exact (List.mem_cons.mp (covered item inItems)).resolve_left (by simpa using notFirst)
    rw [List.flatMap_cons, others]
    exact ((inductionHypothesis restDistinct coveredRest).append_left _).trans
      (List.filter_append_perm _ items)

end Grouping

open Grouping

/-! ### Insertions and what they amount to -/

/-- One use that is recorded. -/
structure Insertion (Site : Type) where
  errorClass : String
  message : String
  site : Site
  deriving Repr, DecidableEq

variable {Site : Type}

/-- Insertions are filed as they say. -/
def Insertion.filing : Filing (Insertion Site) Site :=
  ⟨Insertion.errorClass, Insertion.message, Insertion.site⟩

namespace MessageGroup

/-- The class and the message of a group. -/
def pair (group : MessageGroup Site) : String × String := (group.errorClass, group.message)

/-- The insertions that a group holds. -/
def insertions (group : MessageGroup Site) : List (Insertion Site) :=
  group.sites.map fun site => ⟨group.errorClass, group.message, site⟩

end MessageGroup

namespace Occurrences

/-- The index after insertions that come one after the other. -/
def insertAll (insertions : List (Insertion Site)) : Occurrences Site :=
  insertions.foldl (fun index insertion =>
    index.insert insertion.errorClass insertion.message insertion.site) empty

/-- The groups of insertions: the classes as they are first seen, for each class the messages
as they are first seen with it, and for each pair the sites as they come. -/
def grouped (insertions : List (Insertion Site)) : List (MessageGroup Site) :=
  (firstSeen Insertion.errorClass insertions).flatMap fun errorClass =>
    let ofClass := insertions.filter (·.errorClass = errorClass)
    (firstSeen Insertion.message ofClass).map fun message =>
      ⟨errorClass, message, (ofClass.filter (·.message = message)).map (·.site)⟩

section

variable {insertions : List (Insertion Site)}

/-- The slots of classes and messages are those of the classes as they are first seen, and of
their messages. -/
theorem refines_insertAll :
    (insertAll insertions).Refines
      (groups Insertion.errorClass Insertion.filing.classGroups insertions) :=
  Insertion.filing.refines_index insertions

theorem repeated_insertAll (threshold : Nat) :
    (insertAll insertions).repeated threshold =
      (grouped insertions).filter fun group => threshold ≤ group.sites.length := by
  rw [refines_insertAll.repeated, groups, List.flatMap_map]
  rfl

/-- No pair has two groups. -/
theorem nodup_pair_grouped : ((grouped insertions).map MessageGroup.pair).Nodup := by
  refine List.pairwise_map.mpr (List.pairwise_flatMap.mpr ⟨fun errorClass _ => ?_, ?_⟩)
  · refine List.pairwise_map.mpr (nodup_firstSeen.imp fun different same => ?_)
    exact different (congrArg Prod.snd same)
  · refine nodup_firstSeen.imp fun different first inFirst second inSecond same => ?_
    obtain ⟨_, -, rfl⟩ := List.mem_map.mp inFirst
    obtain ⟨_, -, rfl⟩ := List.mem_map.mp inSecond
    exact different (congrArg Prod.fst same)

/-- A pair has a group because it was inserted. -/
theorem length_sites_pos {group : MessageGroup Site} (member : group ∈ grouped insertions) :
    0 < group.sites.length := by
  obtain ⟨errorClass, -, inClass⟩ := List.mem_flatMap.mp member
  obtain ⟨message, seen, rfl⟩ := List.mem_map.mp inClass
  obtain ⟨insertion, inserted, rfl⟩ := mem_firstSeen.mp seen
  rw [List.length_map]
  exact List.length_pos_of_mem (List.mem_filter.mpr ⟨inserted, decide_eq_true rfl⟩)

/-- The groups taken apart are the insertions. -/
theorem perm_flatMap_insertions :
    ((grouped insertions).flatMap MessageGroup.insertions).Perm insertions := by
  rw [grouped, List.flatMap_assoc]
  have ofClass : ∀ errorClass ∈ firstSeen Insertion.errorClass insertions,
      (((firstSeen Insertion.message (insertions.filter (·.errorClass = errorClass))).map
        fun message => (⟨errorClass, message,
          ((insertions.filter (·.errorClass = errorClass)).filter (·.message = message)).map
            (·.site)⟩ : MessageGroup Site)).flatMap MessageGroup.insertions).Perm
        (insertions.filter (·.errorClass = errorClass)) := by
    intro errorClass _
    rw [List.flatMap_map]
    refine List.Perm.trans (List.Perm.of_eq (List.flatMap_congr fun message _ => ?_))
      (perm_flatMap_filter nodup_firstSeen fun insertion inClass =>
        mem_firstSeen.mpr ⟨insertion, inClass, rfl⟩)
    -- What is in a group has its class and its message.
    rw [MessageGroup.insertions, List.map_map]
    refine (List.map_congr_left fun insertion member => ?_).trans (List.map_id _)
    obtain ⟨inClass, named⟩ := List.mem_filter.mp member
    obtain rfl := of_decide_eq_true named
    obtain rfl := of_decide_eq_true (List.mem_filter.mp inClass).2
    rfl
  exact (List.Perm.flatMap_left _ ofClass).trans
    (perm_flatMap_filter nodup_firstSeen fun insertion inserted =>
      mem_firstSeen.mpr ⟨insertion, inserted, rfl⟩)

end

/-- After any insertions the slots of the index are in step with its classes and their messages,
and what is repeated is what the insertions themselves say: the groups with at least a number of
sites, in the order in which their classes and messages are first seen. No pair has two of them,
and unless more than one site is asked for they hold every insertion as often as it was made. -/
theorem repeated_insertAll_lossless (insertions : List (Insertion Site)) (threshold : Nat) :
    (insertAll insertions).Refines
        (groups Insertion.errorClass Insertion.filing.classGroups insertions) ∧
      let groups := (insertAll insertions).repeated threshold
      groups = (grouped insertions).filter (fun group => threshold ≤ group.sites.length) ∧
        (groups.map MessageGroup.pair).Nodup ∧
        (threshold ≤ 1 → (groups.flatMap MessageGroup.insertions).Perm insertions) := by
  refine ⟨refines_insertAll, ?_⟩
  intro groups
  have filtered : groups =
      (grouped insertions).filter fun group => threshold ≤ group.sites.length :=
    repeated_insertAll threshold
  refine ⟨filtered, ?_, fun lenient => ?_⟩
  · rw [filtered]
    exact nodup_pair_grouped.sublist (List.filter_sublist.map _)
  · have all : groups = grouped insertions := by
      rw [filtered]
      refine List.filter_eq_self.mpr fun group member => decide_eq_true ?_
      exact Nat.le_trans lenient (length_sites_pos member)
    rw [all]
    exact perm_flatMap_insertions

/-- Two classes take turns and share a message, and a site comes twice. -/
theorem repeated_insertAll_lossless_sample :
    let insertions : List (Insertion Nat) :=
      [⟨"A", "x", 1⟩, ⟨"B", "x", 2⟩, ⟨"A", "y", 3⟩, ⟨"B", "x", 2⟩, ⟨"A", "x", 1⟩]
    let groups := (insertAll insertions).repeated 1
    1 ≤ 1 ∧ (insertAll insertions).classes.slots = [("B", 1), ("A", 0)] ∧
      groups = [⟨"A", "x", [1, 1]⟩, ⟨"A", "y", [3]⟩, ⟨"B", "x", [2, 2]⟩] ∧
      (insertAll insertions).repeated 2 = [⟨"A", "x", [1, 1]⟩, ⟨"B", "x", [2, 2]⟩] ∧
      (groups.map MessageGroup.pair).Nodup ∧
      (groups.flatMap MessageGroup.insertions).Perm insertions := by
  intro insertions groups
  obtain ⟨-, -, distinct, lossless⟩ := repeated_insertAll_lossless insertions 1
  exact ⟨Nat.le_refl 1, by decide, by decide, by decide, distinct, lossless (Nat.le_refl 1)⟩

end Occurrences

end ErrorLint
