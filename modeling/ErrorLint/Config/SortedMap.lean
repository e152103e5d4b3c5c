/-
This file holds maps from texts. A map is a list of entries that is sorted by key, so
two maps with the same entries are the same.
-/

namespace ErrorLint

/-- A map from texts: its entries, sorted by key. -/
@[ext]
structure SortedMap (α : Type) where
  entries : List (String × α)
  sorted : entries.Pairwise (·.1 < ·.1)

namespace SortedMap

variable {α : Type} {key : String} {value : α} {entries : List (String × α)}

/-- Puts an entry into a list that is sorted by key, in place of an older entry of
the key. -/
def insertEntry (key : String) (value : α) : List (String × α) → List (String × α)
  | [] => [(key, value)]
  | (other, old) :: rest =>
    if key < other then (key, value) :: (other, old) :: rest
    else if key = other then (key, value) :: rest
    else (other, old) :: insertEntry key value rest

theorem mem_insertEntry {entry : String × α} (inside : entry ∈ insertEntry key value entries) :
    entry = (key, value) ∨ entry ∈ entries := by
  induction entries with
  | nil => exact .inl (List.mem_singleton.1 inside)
  | cons other entries inductionHypothesis =>
    rw [insertEntry] at inside
    split at inside
    · exact List.mem_cons.1 inside
    · split at inside
      · exact (List.mem_cons.1 inside).imp_right (List.mem_cons_of_mem _)
      · obtain rfl | inside := List.mem_cons.1 inside
        · exact .inr List.mem_cons_self
        · exact (inductionHypothesis inside).imp_right (List.mem_cons_of_mem _)

/-- The entries stay sorted. -/
theorem pairwise_insertEntry (sorted : entries.Pairwise (·.1 < ·.1)) :
    (insertEntry key value entries).Pairwise (·.1 < ·.1) := by
  induction entries with
  | nil => exact List.pairwise_singleton _ _
  | cons other entries inductionHypothesis =>
    obtain ⟨first, sorted'⟩ := List.pairwise_cons.1 sorted
    rw [insertEntry]
    split
    · rename_i before
      refine List.pairwise_cons.2 ⟨fun entry inside => ?_, sorted⟩
      obtain rfl | inside := List.mem_cons.1 inside
      · exact before
      · exact String.lt_trans before (first entry inside)
    · rename_i notBefore
      split
      · rename_i same
        exact List.pairwise_cons.2 ⟨fun entry inside => same ▸ first entry inside, sorted'⟩
      · rename_i different
        refine List.pairwise_cons.2 ⟨fun entry inside => ?_, inductionHypothesis sorted'⟩
        obtain rfl | inside := mem_insertEntry inside
        · refine Decidable.byContradiction fun notAfter => different ?_
          exact String.le_antisymm (String.not_lt.1 notAfter) (String.not_lt.1 notBefore)
        · exact first entry inside

/-- The map without entries. -/
def empty : SortedMap α := ⟨[], .nil⟩

/-- Sets the value of a key. -/
def insert (key : String) (value : α) (map : SortedMap α) : SortedMap α :=
  ⟨insertEntry key value map.entries, pairwise_insertEntry map.sorted⟩

end SortedMap

end ErrorLint
