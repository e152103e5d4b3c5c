/-
This file says that the slots of an index are in step with its entries. A slot is a number that
is looked up in one list and used in another one, so an entry is filed wrongly, without any
sign of it, as soon as one of them changes without the other. What keeps them in step is that
the slot of a key is the place of the row that the key has in a list of rows without any slots,
and that there is no slot for any other key.

An update keeps this up: to file an entry by its slot is to file its row by its key. The index
of uses has one table for the classes and one in every class for its messages, and both are
kept in step by the same step.
-/

import ErrorLint.Proofs.Rule.Grouping
import ErrorLint.Rule.Occurrences
import Mathlib.Data.List.Forall2

namespace ErrorLint

open Grouping

namespace Slotted

/-! ### Changing what is at a place -/

section

variable {Entry Row Key : Type} {keyOf : Row → Key} {rows : List Row}

/-- The keys stay as they are if a row is changed and keeps its key. -/
theorem map_modify {changeRow : Row → Row} (sameKey : ∀ row, keyOf (changeRow row) = keyOf row)
    (slot : Nat) : (rows.modify slot changeRow).map keyOf = rows.map keyOf := by
  induction rows generalizing slot with
  | nil => simp
  | cons row rows inductionHypothesis => cases slot <;> simp [sameKey, inductionHypothesis]

/-- If no key has two rows, filing by a key changes the row at its place. -/
theorem file_eq_modify [DecidableEq Key] {changeRow : Row → Row} {openedRow : Row} {key : Key}
    {slot : Nat} (distinct : (rows.map keyOf).Nodup) (found : (rows.map keyOf)[slot]? = some key) :
    file keyOf key changeRow openedRow rows = rows.modify slot changeRow := by
  induction rows generalizing slot with
  | nil => simp at found
  | cons row rows inductionHypothesis =>
    obtain ⟨fresh, distinct⟩ := List.nodup_cons.mp distinct
    cases slot with
    | zero =>
      have here : keyOf row = key := by simpa using found
      rw [file, if_pos here, List.modify_zero_cons]
    | succ slot =>
      have later : (rows.map keyOf)[slot]? = some key := by simpa using found
      have elsewhere : keyOf row ≠ key := by
        rintro rfl
        exact fresh (List.mem_of_getElem? later)
      rw [file, if_neg elsewhere, inductionHypothesis distinct later, List.modify_succ_cons]

/-- What is at a place of a list with one more member. -/
theorem getElem?_append_singleton_iff {keys : List Key} {key asked : Key} {slot : Nat} :
    (keys ++ [key])[slot]? = some asked ↔
      keys[slot]? = some asked ∨ slot = keys.length ∧ key = asked := by
  rcases Nat.lt_trichotomy slot keys.length with before | same | behind
  · rw [List.getElem?_append_left before]
    simp [Nat.ne_of_lt before]
  · simp [same]
  · have beyond : (keys ++ [key])[slot]? = none :=
      List.getElem?_eq_none (by rw [List.length_append]; exact behind)
    simp [beyond, Nat.ne_of_gt behind, Nat.le_of_lt behind]

theorem forall₂_modify {standsFor : Entry → Row → Prop} {change : Entry → Entry}
    {changeRow : Row → Row} {entries : List Entry} {slot : Nat}
    (paired : List.Forall₂ standsFor entries rows)
    (changes : ∀ entry row, rows[slot]? = some row → standsFor entry row →
      standsFor (change entry) (changeRow row)) :
    List.Forall₂ standsFor (entries.modify slot change) (rows.modify slot changeRow) := by
  induction paired generalizing slot with
  | nil => simp
  | @cons entry row entries rows first others inductionHypothesis =>
    cases slot with
    | zero =>
      rw [List.modify_zero_cons, List.modify_zero_cons]
      exact .cons (changes entry row rfl first) others
    | succ slot =>
      rw [List.modify_succ_cons, List.modify_succ_cons]
      exact .cons first (inductionHypothesis changes)

end

/-! ### Slots in step with the entries -/

section

variable {Entry Row : Type}

/-- An index is in step with rows that are found by their keys. -/
structure Refines (keyOf : Row → String) (standsFor : Entry → Row → Prop) (index : Slotted Entry)
    (rows : List Row) : Prop where
  /-- No key has two rows. -/
  distinct : (rows.map keyOf).Nodup
  /-- The entries stand for the rows, one by one. -/
  paired : List.Forall₂ standsFor index.entries rows
  /-- A key has a slot exactly if it has a row, and the slot is the place of the row. -/
  located : ∀ key slot, index.slots.lookup key = some slot ↔ (rows.map keyOf)[slot]? = some key

variable {keyOf : Row → String} {standsFor : Entry → Row → Prop} {index : Slotted Entry}
  {rows : List Row} {key : String}

theorem refines_empty : (empty : Slotted Entry).Refines keyOf standsFor [] where
  distinct := List.nodup_nil
  paired := .nil
  located := by simp [empty]

/-- A key without a slot has no row. -/
theorem Refines.ne_of_lookup_eq_none (refines : index.Refines keyOf standsFor rows)
    (missing : index.slots.lookup key = none) : ∀ row ∈ rows, keyOf row ≠ key := by
  rintro row inside rfl
  obtain ⟨slot, found⟩ := List.mem_iff_getElem?.mp (List.mem_map_of_mem (f := keyOf) inside)
  rw [(refines.located _ slot).mpr found] at missing
  cases missing

theorem update_of_lookup_eq_some {slot : Nat} (found : index.slots.lookup key = some slot)
    (opened : Entry) (change : Entry → Entry) :
    index.update key opened change = ⟨index.slots, index.entries.modify slot change⟩ := by
  rw [update, slotFor, found]

theorem update_of_lookup_eq_none (missing : index.slots.lookup key = none) (opened : Entry)
    (change : Entry → Entry) :
    index.update key opened change =
      ⟨(key, index.entries.length) :: index.slots, index.entries ++ [change opened]⟩ := by
  have last : (index.entries ++ [opened]).modify index.entries.length change =
      index.entries ++ [change opened] := by
    rw [List.modify_eq_take_drop, List.take_left, List.drop_left]
    rfl
  rw [update, slotFor, missing]
  exact congrArg _ last

/-- Filing an entry by its slot is filing its row by its key. -/
theorem Refines.update {opened : Entry} {change : Entry → Entry} {openedRow : Row}
    {changeRow : Row → Row} (refines : index.Refines keyOf standsFor rows)
    (changes : ∀ entry row, keyOf row = key → standsFor entry row →
      standsFor (change entry) (changeRow row))
    (sameKey : ∀ row, keyOf (changeRow row) = keyOf row)
    (opens : standsFor (change opened) openedRow) (ownKey : keyOf openedRow = key) :
    (index.update key opened change).Refines keyOf standsFor
      (file keyOf key changeRow openedRow rows) := by
  cases found : index.slots.lookup key with
  | some slot =>
    have place := (refines.located key slot).mp found
    rw [update_of_lookup_eq_some found, file_eq_modify refines.distinct place]
    refine ⟨?_, forall₂_modify refines.paired fun entry row atSlot => changes entry row ?_,
      fun other slot' => ?_⟩
    · rw [map_modify sameKey]
      exact refines.distinct
    · rw [List.getElem?_map, atSlot] at place
      exact Option.some.inj place
    · rw [map_modify sameKey]
      exact refines.located other slot'
  | none =>
    have fresh := refines.ne_of_lookup_eq_none found
    have next : index.entries.length = (rows.map keyOf).length := by
      rw [refines.paired.length_eq, List.length_map]
    have keys : (rows ++ [openedRow]).map keyOf = rows.map keyOf ++ [key] := by
      rw [List.map_append, List.map_singleton, ownKey]
    have unlisted : key ∉ rows.map keyOf := by
      intro listed
      obtain ⟨row, inside, same⟩ := List.mem_map.mp listed
      exact fresh row inside same
    rw [update_of_lookup_eq_none found, file_of_notMem fresh]
    refine ⟨?_, List.rel_append refines.paired (.cons opens .nil), fun other slot => ?_⟩
    · rw [keys]
      exact (List.perm_append_singleton key _).nodup_iff.mpr
        (List.nodup_cons.mpr ⟨unlisted, refines.distinct⟩)
    · rw [keys, getElem?_append_singleton_iff, ← refines.located, List.lookup_cons, next]
      by_cases same : other = key
      · subst same
        simp [found, eq_comm]
      · simp [beq_false_of_ne same, Ne.symm same]

/-- A slot is always that of an entry, so no update misses. -/
theorem Refines.lt_of_lookup_eq_some (refines : index.Refines keyOf standsFor rows) {slot : Nat}
    (found : index.slots.lookup key = some slot) : slot < index.entries.length := by
  have place := (refines.located key slot).mp found
  rw [refines.paired.length_eq, ← List.length_map (f := keyOf)]
  exact (List.getElem?_eq_some_iff.mp place).1

end

end Slotted

/-! ### Classes and messages -/

/-- The messages of one class, without slots. -/
structure ClassGroups (Site : Type) where
  errorClass : String
  messages : List (MessageGroup Site)

namespace Occurrences

variable {Site : Type} {index : Occurrences Site} {classes : List (ClassGroups Site)}

/-- The index is in step with classes, and in each class with its messages. -/
def Refines (index : Occurrences Site) (classes : List (ClassGroups Site)) : Prop :=
  index.classes.Refines ClassGroups.errorClass
    (fun entry row => entry.Refines MessageGroup.message (· = ·) row.messages) classes

theorem refines_empty : (empty : Occurrences Site).Refines [] := Slotted.refines_empty

/-- Files a site under a message among the messages of a class. -/
def fileMessage (errorClass message : String) (site : Site) :
    List (MessageGroup Site) → List (MessageGroup Site) :=
  file MessageGroup.message message (fun group => { group with sites := group.sites ++ [site] })
    ⟨errorClass, message, [site]⟩

/-- Files a site under a class and a message. -/
def fileClass (errorClass message : String) (site : Site) :
    List (ClassGroups Site) → List (ClassGroups Site) :=
  file ClassGroups.errorClass errorClass
    (fun row => { row with messages := fileMessage errorClass message site row.messages })
    ⟨errorClass, fileMessage errorClass message site []⟩

/-- Recording a use by the slots of its class and its message is filing it by their names. -/
theorem Refines.insert (refines : index.Refines classes) (errorClass message : String)
    (site : Site) :
    (index.insert errorClass message site).Refines (fileClass errorClass message site classes) := by
  have filed : ∀ {entry : ClassEntry Site} {messages : List (MessageGroup Site)},
      entry.Refines MessageGroup.message (· = ·) messages →
        (entry.update message ⟨errorClass, message, []⟩ fun group =>
          { group with sites := group.sites ++ [site] }).Refines MessageGroup.message (· = ·)
          (fileMessage errorClass message site messages) := by
    intro entry messages inStep
    exact inStep.update (fun _ _ _ same => same ▸ rfl) (fun _ => rfl) rfl rfl
  exact Slotted.Refines.update refines (fun _ _ _ inStep => filed inStep) (fun _ => rfl)
    (filed Slotted.refines_empty) rfl

/-- The groups are read off the classes. -/
theorem Refines.repeated (refines : index.Refines classes) (threshold : Nat) :
    index.repeated threshold =
      (classes.flatMap (·.messages)).filter fun group => threshold ≤ group.sites.length := by
  have read : ∀ {entries : List (ClassEntry Site)} {classes : List (ClassGroups Site)},
      List.Forall₂ (fun entry row => entry.Refines MessageGroup.message (· = ·) row.messages)
        entries classes → entries.flatMap (·.entries) = classes.flatMap (·.messages) := by
    intro entries classes paired
    induction paired with
    | nil => rfl
    | cons first _ inductionHypothesis =>
      have same := first.paired
      rw [List.forall₂_eq_eq_eq] at same
      rw [List.flatMap_cons, List.flatMap_cons, inductionHypothesis, same]
  rw [Occurrences.repeated, read refines.paired]

end Occurrences

end ErrorLint
