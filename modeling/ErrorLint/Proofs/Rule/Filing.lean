/-
This file says what the index of uses holds. Items are filed one after the other, each with its
class and its message. The index is then in step with a grouping at two levels, for classes and
for the messages of a class, that can be told from the items alone.

Read group after group, the items that are used often enough come in the order of their
class, of their message within the class, and of their own.
-/

import ErrorLint.Proofs.Rule.Slots

namespace ErrorLint

open Grouping

/-- How items are filed: with a class, a message and a site. -/
structure Filing (Item Site : Type) where
  errorClass : Item → String
  message : Item → String
  site : Item → Site

namespace Filing

variable {Item Site : Type} (filing : Filing Item Site)

/-- The index of items that are filed one after the other. -/
def index (items : List Item) : Occurrences Site :=
  items.foldl (fun index item =>
    index.insert (filing.errorClass item) (filing.message item) (filing.site item))
    Occurrences.empty

/-- The group of a pair with the given items. -/
def messageGroup (errorClass message : String) (items : List Item) : MessageGroup Site :=
  ⟨errorClass, message, items.map filing.site⟩

/-- The entry of a class with the given items. -/
def classGroups (errorClass : String) (items : List Item) : ClassGroups Site :=
  ⟨errorClass, groups filing.message (filing.messageGroup errorClass) items⟩

theorem fileMessage_groups (errorClass : String) (items : List Item) (item : Item) :
    Occurrences.fileMessage errorClass (filing.message item) (filing.site item)
        (groups filing.message (filing.messageGroup errorClass) items) =
      groups filing.message (filing.messageGroup errorClass) (items ++ [item]) := by
  refine file_groups (fun _ _ => rfl) (fun earlier => ?_) rfl
  rw [messageGroup, messageGroup, List.map_append, List.map_singleton]

theorem fileClass_groups (items : List Item) (item : Item) :
    Occurrences.fileClass (filing.errorClass item) (filing.message item) (filing.site item)
        (groups filing.errorClass filing.classGroups items) =
      groups filing.errorClass filing.classGroups (items ++ [item]) := by
  refine file_groups (fun _ _ => rfl) (fun earlier => ?_) ?_
  · rw [classGroups, classGroups, ← fileMessage_groups]
  · rw [classGroups, ← List.nil_append [item], ← fileMessage_groups]
    rfl

theorem index_append_singleton (items : List Item) (item : Item) :
    filing.index (items ++ [item]) =
      (filing.index items).insert (filing.errorClass item) (filing.message item)
        (filing.site item) := by
  rw [index, List.foldl_append]
  rfl

/-- The index is in step with the classes that the items make: they stand in the order in which
they are first seen, and so do the messages of each of them. -/
theorem refines_index (items : List Item) :
    (filing.index items).Refines (groups filing.errorClass filing.classGroups items) := by
  induction items using List.reverseRecOn with
  | nil => exact Occurrences.refines_empty
  | append_singleton items item inductionHypothesis =>
    rw [index_append_singleton, ← fileClass_groups]
    exact inductionHypothesis.insert _ _ _

/-! ### What is repeated -/

/-- The items of a class. -/
def ofClass (items : List Item) (errorClass : String) : List Item :=
  items.filter (filing.errorClass · = errorClass)

/-- The items of a pair of a class and a message. -/
def ofPair (items : List Item) (errorClass message : String) : List Item :=
  (filing.ofClass items errorClass).filter (filing.message · = message)

/-- The messages that are used with a class at least a number of times. -/
def repeatedMessages (threshold : Nat) (items : List Item) (errorClass : String) : List String :=
  (firstSeen filing.message (filing.ofClass items errorClass)).filter fun message =>
    threshold ≤ (filing.ofPair items errorClass message).length

/-- The items whose pair has at least a number of items, pair by pair. -/
def repeatedItems (threshold : Nat) (items : List Item) : List Item :=
  (firstSeen filing.errorClass items).flatMap fun errorClass =>
    (filing.repeatedMessages threshold items errorClass).flatMap (filing.ofPair items errorClass)

section

variable {filing} {threshold : Nat} {items : List Item} {errorClass message : String} {item : Item}

theorem mem_ofClass :
    item ∈ filing.ofClass items errorClass ↔
      item ∈ items ∧ filing.errorClass item = errorClass := by
  rw [ofClass, List.mem_filter, decide_eq_true_eq]

theorem mem_ofPair :
    item ∈ filing.ofPair items errorClass message ↔
      item ∈ items ∧ filing.errorClass item = errorClass ∧ filing.message item = message := by
  rw [ofPair, List.mem_filter, mem_ofClass, decide_eq_true_eq, and_assoc]

theorem mem_repeatedItems :
    item ∈ filing.repeatedItems threshold items ↔
      item ∈ items ∧ threshold ≤
        (filing.ofPair items (filing.errorClass item) (filing.message item)).length := by
  simp only [repeatedItems, List.mem_flatMap, mem_ofPair]
  constructor
  · rintro ⟨errorClass, -, message, often, inItems, rfl, rfl⟩
    exact ⟨inItems, of_decide_eq_true (List.mem_filter.mp often).2⟩
  · rintro ⟨inItems, often⟩
    have seen : filing.message item ∈
        firstSeen filing.message (filing.ofClass items (filing.errorClass item)) :=
      mem_firstSeen.mpr ⟨item, mem_ofClass.mpr ⟨inItems, rfl⟩, rfl⟩
    exact ⟨_, mem_firstSeen.mpr ⟨item, inItems, rfl⟩, _,
      List.mem_filter.mpr ⟨seen, decide_eq_true often⟩, inItems, rfl, rfl⟩

/-- The groups of the index that have at least a number of sites. -/
theorem repeated_index :
    (filing.index items).repeated threshold =
      (firstSeen filing.errorClass items).flatMap fun errorClass =>
        (filing.repeatedMessages threshold items errorClass).map fun message =>
          filing.messageGroup errorClass message (filing.ofPair items errorClass message) := by
  rw [(refines_index filing items).repeated, groups, List.flatMap_map, List.filter_flatMap]
  refine congrArg (List.flatMap · _) (funext fun errorClass => ?_)
  rw [classGroups, groups, List.filter_map]
  refine congrArg _ (List.filter_congr fun message _ => ?_)
  rw [Function.comp_apply, messageGroup, List.length_map]
  rfl

/-- Reading the sites of the repeated pairs of the index means to go through the repeated
items. -/
theorem flatMap_repeated_index {Result : Type} (read : MessageGroup Site → Site → Result) :
    ((filing.index items).repeated threshold).flatMap (fun group => group.sites.map (read group)) =
      (filing.repeatedItems threshold items).map fun item =>
        read (filing.messageGroup (filing.errorClass item) (filing.message item)
          (filing.ofPair items (filing.errorClass item) (filing.message item)))
          (filing.site item) := by
  rw [repeated_index, repeatedItems, List.flatMap_assoc, List.map_flatMap]
  refine congrArg (List.flatMap · _) (funext fun errorClass => ?_)
  rw [List.flatMap_map, List.map_flatMap]
  refine congrArg (List.flatMap · _) (funext fun message => ?_)
  rw [messageGroup, List.map_map]
  refine List.map_congr_left fun item member => ?_
  obtain ⟨-, rfl, rfl⟩ := mem_ofPair.mp member
  rfl

end

/-! ### The order of the repeated items -/

/-- One item of a first kind comes before all items of a second one. -/
def SeenBefore (occurs : Item → Prop) (before : Item → Item → Prop) (first second : Item → Prop) :
    Prop :=
  ∃ item, occurs item ∧ first item ∧ ∀ other, occurs other → second other → before item other

/-- The order of the groups: by the class that is seen first, then by the message that is
seen first with the class, then by the items themselves. -/
inductive Precedes (occurs : Item → Prop) (before : Item → Item → Prop) (first second : Item) :
    Prop where
  | byClass
    (seen : SeenBefore occurs before (filing.errorClass · = filing.errorClass first)
      (filing.errorClass · = filing.errorClass second))
  | byMessage
    (sameClass : filing.errorClass first = filing.errorClass second)
    (seen : SeenBefore occurs before
      (fun item => filing.errorClass item = filing.errorClass first ∧
        filing.message item = filing.message first)
      (fun item => filing.errorClass item = filing.errorClass second ∧
        filing.message item = filing.message second))
  | byItem
    (sameClass : filing.errorClass first = filing.errorClass second)
    (sameMessage : filing.message first = filing.message second)
    (earlier : before first second)

section

variable {filing} {occurs : Item → Prop} {before : Item → Item → Prop} {item : Item}

theorem not_seenBefore_self (irreflexive : ∀ item, ¬before item item) (kind : Item → Prop) :
    ¬SeenBefore occurs before kind kind := by
  rintro ⟨item, present, ofKind, leads⟩
  exact irreflexive item (leads item present ofKind)

theorem not_precedes_self (irreflexive : ∀ item, ¬before item item) :
    ¬filing.Precedes occurs before item item := by
  intro precedes
  cases precedes with
  | byClass seen => exact not_seenBefore_self irreflexive _ seen
  | byMessage sameClass seen => exact not_seenBefore_self irreflexive _ seen
  | byItem sameClass sameMessage earlier => exact irreflexive item earlier

end

/-- The repeated items come in the order of the groups. -/
theorem pairwise_repeatedItems (threshold : Nat) {items : List Item}
    {before : Item → Item → Prop} (sorted : items.Pairwise before) :
    (filing.repeatedItems threshold items).Pairwise (filing.Precedes (· ∈ items) before) := by
  refine List.pairwise_flatMap.mpr ⟨fun errorClass _ => List.pairwise_flatMap.mpr ⟨?_, ?_⟩, ?_⟩
  · intro message _
    have sortedPair : (filing.ofPair items errorClass message).Pairwise before :=
      (sorted.filter _).filter _
    refine sortedPair.imp_of_mem fun {first second} inFirst inSecond earlier => ?_
    obtain ⟨-, firstClass, firstMessage⟩ := mem_ofPair.mp inFirst
    obtain ⟨-, secondClass, secondMessage⟩ := mem_ofPair.mp inSecond
    exact .byItem (firstClass.trans secondClass.symm) (firstMessage.trans secondMessage.symm)
      earlier
  · have sortedClass : (filing.ofClass items errorClass).Pairwise before := sorted.filter _
    refine ((pairwise_firstSeen sortedClass).filter _).imp ?_
    rintro message other ⟨item, inClass, rfl, leads⟩ first inFirst second inSecond
    obtain ⟨-, firstClass, firstMessage⟩ := mem_ofPair.mp inFirst
    obtain ⟨-, secondClass, rfl⟩ := mem_ofPair.mp inSecond
    obtain ⟨inItems, sameClass⟩ := mem_ofClass.mp inClass
    refine .byMessage (firstClass.trans secondClass.symm)
      ⟨item, inItems, ⟨sameClass.trans firstClass.symm, firstMessage.symm⟩, ?_⟩
    rintro later inLater ⟨laterClass, laterMessage⟩
    exact leads later (mem_ofClass.mpr ⟨inLater, laterClass.trans secondClass⟩) laterMessage
  · refine (pairwise_firstSeen sorted).imp ?_
    rintro errorClass other ⟨item, member, rfl, leads⟩ first inFirst second inSecond
    obtain ⟨_, _, firstPair⟩ := List.mem_flatMap.mp inFirst
    obtain ⟨_, _, secondPair⟩ := List.mem_flatMap.mp inSecond
    obtain ⟨-, firstClass, -⟩ := mem_ofPair.mp firstPair
    obtain ⟨-, rfl, -⟩ := mem_ofPair.mp secondPair
    exact .byClass ⟨item, member, firstClass.symm, leads⟩

end Filing

end ErrorLint
