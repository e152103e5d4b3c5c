/-
This file holds the values that options can be. All objects inside such a value are
sorted by key, and all integers have sixty-four bits, with a sign or without one.
-/

import ErrorLint.Config.Record
import ErrorLint.Config.SortedMap

namespace ErrorLint

namespace Value

variable {item : Value} {items : List Value} {entry : String × Value}
  {entries : List (String × Value)}

mutual

/-- The value and all values inside it. -/
def parts : Value → List Value
  | .array items => .array items :: itemParts items
  | .object entries => .object entries :: entryParts entries
  | value => [value]

def itemParts : List Value → List Value
  | [] => []
  | item :: rest => item.parts ++ itemParts rest

def entryParts : List (String × Value) → List Value
  | [] => []
  | (_, value) :: rest => value.parts ++ entryParts rest

end

/-- What a value is like itself, whatever stands inside it. -/
def IsOrderly : Value → Prop
  | .integer number => -0x8000000000000000 ≤ number ∧ number < 0x10000000000000000
  | .object entries => entries.Pairwise (·.1 < ·.1)
  | _ => True

instance : DecidablePred IsOrderly
  | .integer number =>
    inferInstanceAs (Decidable (-0x8000000000000000 ≤ number ∧ number < 0x10000000000000000))
  | .object entries => inferInstanceAs (Decidable (entries.Pairwise (·.1 < ·.1)))
  | .null | .boolean _ | .float _ | .string _ | .array _ => inferInstanceAs (Decidable True)

def IsWellFormed (value : Value) : Prop := ∀ part ∈ value.parts, part.IsOrderly

instance : DecidablePred IsWellFormed := fun value =>
  inferInstanceAs (Decidable (∀ part ∈ value.parts, part.IsOrderly))

theorem mem_parts_self (value : Value) : value ∈ value.parts := by
  cases value <;> exact List.mem_cons_self

theorem IsWellFormed.isOrderly {value : Value} (wellFormed : value.IsWellFormed) :
    value.IsOrderly :=
  wellFormed value (mem_parts_self value)

theorem forall_mem_itemParts :
    (∀ part ∈ itemParts items, part.IsOrderly) ↔ ∀ item ∈ items, item.IsWellFormed := by
  induction items with
  | nil => exact ⟨nofun, nofun⟩
  | cons item items inductionHypothesis =>
    rw [itemParts, List.forall_mem_append, inductionHypothesis, List.forall_mem_cons]
    rfl

theorem forall_mem_entryParts :
    (∀ part ∈ entryParts entries, part.IsOrderly) ↔
      ∀ entry ∈ entries, entry.2.IsWellFormed := by
  induction entries with
  | nil => exact ⟨nofun, nofun⟩
  | cons entry entries inductionHypothesis =>
    rw [entryParts, List.forall_mem_append, inductionHypothesis, List.forall_mem_cons]
    rfl

theorem IsWellFormed.of_mem_items (wellFormed : (array items).IsWellFormed)
    (inside : item ∈ items) : item.IsWellFormed :=
  forall_mem_itemParts.1 (List.forall_mem_cons.1 wellFormed).2 item inside

theorem IsWellFormed.of_mem_entries (wellFormed : (object entries).IsWellFormed)
    (inside : entry ∈ entries) : entry.2.IsWellFormed :=
  forall_mem_entryParts.1 (List.forall_mem_cons.1 wellFormed).2 entry inside

end Value

/-- A value that options can be. -/
@[ext]
structure JsonValue where
  value : Value
  wellFormed : value.IsWellFormed

namespace JsonValue

/-- What the value gives a record. -/
def layout : JsonValue → Layout JsonValue
  | ⟨.object entries, wellFormed⟩ =>
    .byName (entries.attach.map fun ⟨entry, inside⟩ =>
      (entry.1, ⟨entry.2, wellFormed.of_mem_entries inside⟩))
  | ⟨.array items, wellFormed⟩ =>
    .inOrder (items.attach.map fun ⟨item, inside⟩ => ⟨item, wellFormed.of_mem_items inside⟩)
  | ⟨value, _⟩ => .none value.found

end JsonValue

end ErrorLint
