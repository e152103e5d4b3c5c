/-
This file takes options to TOML values and back. A value has a TOML value unless a null or an
integer that is too large stands somewhere inside it, and without floating-point numbers it
can be read off its TOML value. The order of the entries does not matter for that, since they
are sorted by their keys again; so values that are alike hold the same options.
-/

import ErrorLint.Config.Toml
import ErrorLint.Proofs.Toml.Conformance
import Mathlib.Data.List.Permutation
import Mathlib.Data.String.Basic

namespace ErrorLint

/-! ### Sorted entries -/

namespace SortedMap

variable {α : Type} {key : String} {value : α} {entries first second : List (String × α)}

/-- A key before all others comes first. -/
theorem insertEntry_of_lt (first : ∀ entry ∈ entries, key < entry.1) :
    insertEntry key value entries = (key, value) :: entries := by
  cases entries with
  | nil => rfl
  | cons entry entries => exact if_pos (first entry List.mem_cons_self)

/-- A new key is added and nothing is lost. -/
theorem perm_insertEntry (fresh : key ∉ entries.map Prod.fst) :
    (insertEntry key value entries).Perm ((key, value) :: entries) := by
  induction entries with
  | nil => exact .refl _
  | cons entry entries inductionHypothesis =>
    rw [List.map_cons, List.mem_cons, not_or] at fresh
    rw [insertEntry]
    split
    · exact .refl _
    · rw [if_neg fresh.1]
      exact ((inductionHypothesis fresh.2).cons _).trans (.swap ..)

/-- The entries sorted by key, put in one after the other. -/
def sortEntries (entries : List (String × α)) : List (String × α) :=
  entries.foldr (fun entry sorted => insertEntry entry.1 entry.2 sorted) []

theorem pairwise_sortEntries (entries : List (String × α)) :
    (sortEntries entries).Pairwise (·.1 < ·.1) := by
  induction entries with
  | nil => exact .nil
  | cons entry entries inductionHypothesis => exact pairwise_insertEntry inductionHypothesis

theorem perm_sortEntries (distinct : (entries.map Prod.fst).Nodup) :
    (sortEntries entries).Perm entries := by
  induction entries with
  | nil => exact .refl _
  | cons entry entries inductionHypothesis =>
    obtain ⟨fresh, distinct⟩ := List.nodup_cons.1 distinct
    have rest := inductionHypothesis distinct
    exact (perm_insertEntry fun inside => fresh ((rest.map Prod.fst).mem_iff.1 inside)).trans
      (rest.cons entry)

/-- The order in which entries are put in does not matter, if their keys are distinct. -/
theorem sortEntries_congr (distinct : (second.map Prod.fst).Nodup) (perm : first.Perm second) :
    sortEntries first = sortEntries second := by
  have distinct' : (first.map Prod.fst).Nodup := (perm.map Prod.fst).nodup_iff.2 distinct
  refine List.Perm.eq_of_pairwise (fun left right _ _ before after => ?_)
    (pairwise_sortEntries first) (pairwise_sortEntries second)
    ((perm_sortEntries distinct').trans (perm.trans (perm_sortEntries distinct).symm))
  exact absurd before (lt_asymm after)

/-- Entries that are sorted already stay as they are. -/
theorem sortEntries_of_pairwise (sorted : entries.Pairwise (·.1 < ·.1)) :
    sortEntries entries = entries := by
  induction entries with
  | nil => rfl
  | cons entry entries inductionHypothesis =>
    obtain ⟨first, sorted⟩ := List.pairwise_cons.1 sorted
    rw [sortEntries, List.foldr_cons, ← sortEntries, inductionHypothesis sorted]
    exact insertEntry_of_lt first

theorem nodup_keys (map : SortedMap α) : (map.entries.map Prod.fst).Nodup :=
  List.pairwise_map.2 (map.sorted.imp ne_of_lt)

end SortedMap

namespace TomlValue

/-! ### The order of entries -/

/-- The entries that have the same key and values that are alike. -/
def AlikeEntries (left right : String × TomlValue) : Prop :=
  left.1 = right.1 ∧ left.2.Alike right.2

theorem forall₂_alikeEntries {lefts rights : List (String × TomlValue)}
    (keys : lefts.map Prod.fst = rights.map Prod.fst)
    (values : List.Forall₂ Alike (lefts.map Prod.snd) (rights.map Prod.snd)) :
    List.Forall₂ AlikeEntries lefts rights := by
  induction lefts generalizing rights with
  | nil =>
    obtain rfl := List.map_eq_nil_iff.1 keys.symm
    exact .nil
  | cons left lefts inductionHypothesis =>
    cases rights with
    | nil => cases keys
    | cons right rights =>
      obtain ⟨key, keys⟩ := List.cons.inj keys
      obtain ⟨value, values⟩ := List.forall₂_cons.1 values
      exact .cons ⟨key, value⟩ (inductionHypothesis keys values)

/-- What is alike to a table is a table with entries that are alike, in some order. -/
theorem Alike.exists_table {left : TomlValue} {rights : List (String × TomlValue)}
    (alike : left.Alike (.table rights)) :
    ∃ lefts middle, left = .table lefts ∧ List.Forall₂ AlikeEntries lefts middle ∧
      middle.Perm rights := by
  cases alike with
  | refl => exact ⟨_, _, rfl, List.forall₂_same.2 fun entry _ => ⟨rfl, .refl _⟩, .refl _⟩
  | table keys values perm => exact ⟨_, _, rfl, forall₂_alikeEntries keys values, perm⟩

/-- What is alike to a table with one entry has one entry. -/
theorem Alike.exists_single {left : TomlValue} {key : String} {value : TomlValue}
    (alike : left.Alike (.table [(key, value)])) :
    ∃ other, other.Alike value ∧ left = .table [(key, other)] := by
  obtain ⟨lefts, middle, rfl, alike, perm⟩ := alike.exists_table
  obtain rfl := List.perm_singleton.1 perm
  obtain ⟨⟨left, other⟩, lefts, ⟨same, value⟩, rest, rfl⟩ := List.forall₂_cons_right_iff.1 alike
  obtain rfl := List.forall₂_nil_right_iff.1 rest
  exact ⟨other, value, by rw [show left = key from same]⟩

/-- What is alike to a table with two entries has the two in one order or the other. -/
theorem Alike.exists_pair {left : TomlValue} {firstKey secondKey : String}
    {first second : TomlValue}
    (alike : left.Alike (.table [(firstKey, first), (secondKey, second)])) :
    ∃ one other, one.Alike first ∧ other.Alike second ∧
      (left = .table [(firstKey, one), (secondKey, other)] ∨
        left = .table [(secondKey, other), (firstKey, one)]) := by
  obtain ⟨lefts, middle, rfl, alike, perm⟩ := alike.exists_table
  obtain rfl | rfl := List.perm_pair.1 perm
  all_goals
    obtain ⟨⟨_, _⟩, _, ⟨rfl, value⟩, others, rfl⟩ := List.forall₂_cons_right_iff.1 alike
    obtain ⟨⟨_, _⟩, _, ⟨rfl, value'⟩, none, rfl⟩ := List.forall₂_cons_right_iff.1 others
    obtain rfl := List.forall₂_nil_right_iff.1 none
  · exact ⟨_, _, value, value', .inl rfl⟩
  · exact ⟨_, _, value', value, .inr rfl⟩

theorem map_eq_map_of_forall₂ {α β γ : Type} {related : α → β → Prop} {lefts : List α}
    {rights : List β} {ofLeft : α → γ} {ofRight : β → γ}
    (pairs : List.Forall₂ related lefts rights)
    (same : ∀ left, ∀ right ∈ rights, related left right → ofLeft left = ofRight right) :
    lefts.map ofLeft = rights.map ofRight := by
  induction pairs with
  | nil => rfl
  | @cons left right lefts rights pair pairs inductionHypothesis =>
    obtain ⟨first, others⟩ := List.forall_mem_cons.1 fun right inside left => same left right inside
    exact congrArg₂ List.cons (first left pair)
      (inductionHypothesis fun left right inside => others right inside left)

theorem itemValues_eq_map (items : List TomlValue) : itemValues items = items.map toValue := by
  induction items with
  | nil => rfl
  | cons item items inductionHypothesis => rw [itemValues, inductionHypothesis, List.map_cons]

/-- An entry with the value that options hold. -/
def entryValue (entry : String × TomlValue) : String × Value := (entry.1, entry.2.toValue)

theorem entryValues_eq (entries : List (String × TomlValue)) :
    entryValues entries = SortedMap.sortEntries (entries.map entryValue) := by
  induction entries with
  | nil => rfl
  | cons entry entries inductionHypothesis =>
    rw [entryValues, inductionHypothesis]
    rfl

/-- Values that are alike hold the same options. -/
theorem Alike.toValue_eq {left right : TomlValue} (alike : left.Alike right)
    (regular : right.Regular) : left.toValue = right.toValue := by
  induction regular generalizing left with
  | string => cases alike; rfl
  | boolean => cases alike; rfl
  | integer => cases alike; rfl
  | @array items regular inductionHypothesis =>
    cases alike with
    | refl => rfl
    | array items =>
      rw [toValue, toValue, itemValues_eq_map, itemValues_eq_map]
      exact congrArg Value.array
        (map_eq_map_of_forall₂ items fun left right inside => inductionHypothesis right inside)
  | @table entries distinct regular inductionHypothesis =>
    obtain ⟨lefts, middle, rfl, alike, perm⟩ := alike.exists_table
    have values : lefts.map entryValue = middle.map entryValue :=
      map_eq_map_of_forall₂ alike fun left right inside ⟨key, value⟩ =>
        Prod.ext key (inductionHypothesis right (perm.mem_iff.1 inside) value)
    rw [toValue, toValue, entryValues_eq, entryValues_eq, values]
    refine congrArg Value.object (SortedMap.sortEntries_congr ?_ (perm.map entryValue))
    rwa [List.map_map]

end TomlValue

/-! ### Values and their parts -/

namespace Value

def isFloat : Value → Bool
  | .float _ => true
  | _ => false

/-- Whether there is no floating-point number in the value. -/
def isFloatFree (value : Value) : Bool := value.parts.all (!·.isFloat)

/-- What TOML cannot express: null, and the integers beyond the largest of sixty-four bits with
a sign. -/
def IsInexpressible : Value → Prop
  | .null => True
  | .integer number => 0x7fffffffffffffff < number
  | _ => False

end Value

namespace TomlValue

/-! ### Values that have a TOML value -/

/-- The parts of a value that is written and read back alike. -/
def Admits (parts : List Value) : Prop :=
  ∀ part ∈ parts, part.IsOrderly ∧ part.isFloat = false

mutual

/-- The TOML value of a value holds the value. -/
theorem regular_of_ofValue? : (value : Value) → Admits value.parts → ∀ {toml : TomlValue},
    ofValue? value = some toml → toml.Regular ∧ toml.toValue = value
  | .null, _, _, written => by cases written
  | .boolean truth, _, _, written => by
    cases written
    exact ⟨.boolean truth, rfl⟩
  | .integer number, _, _, written => by
    rw [ofValue?] at written
    split at written
    · rename_i word
      cases written
      exact ⟨.integer _, congrArg Value.integer (Toml.toInt_ofInt word)⟩
    · cases written
  | .float _, admits, _, _ => nomatch (admits _ List.mem_cons_self).2
  | .string text, _, _, written => by
    cases written
    exact ⟨.string text, rfl⟩
  | .array items, admits, _, written => by
    rw [ofValue?, Option.map_eq_some_iff] at written
    obtain ⟨tomls, written, rfl⟩ := written
    obtain ⟨regular, same⟩ := regular_of_ofItems? items
      (fun part inside => admits part (List.mem_cons_of_mem _ inside)) written
    exact ⟨.array regular, congrArg Value.array same⟩
  | .object entries, admits, _, written => by
    rw [ofValue?, Option.map_eq_some_iff] at written
    obtain ⟨tomls, written, rfl⟩ := written
    obtain ⟨regular, same⟩ := regular_of_ofEntries? entries
      (fun part inside => admits part (List.mem_cons_of_mem _ inside)) written
    have sorted : (tomls.map entryValue).Pairwise (·.1 < ·.1) := by
      rw [same]
      exact (admits _ List.mem_cons_self).1
    refine ⟨.table ?_ regular, ?_⟩
    · rw [List.pairwise_map] at sorted
      exact List.pairwise_map.2 (sorted.imp ne_of_lt)
    · rw [toValue, entryValues_eq, SortedMap.sortEntries_of_pairwise sorted, same]

theorem regular_of_ofItems? : (items : List Value) → Admits (Value.itemParts items) →
    ∀ {tomls : List TomlValue}, ofItems? items = some tomls →
    (∀ toml ∈ tomls, toml.Regular) ∧ itemValues tomls = items
  | [], _, _, written => by
    cases written
    exact ⟨nofun, rfl⟩
  | item :: rest, admits, _, written => by
    obtain ⟨toml, first, written⟩ := Option.bind_eq_some_iff.1 written
    obtain ⟨tomls, others, ⟨⟩⟩ := Option.bind_eq_some_iff.1 written
    obtain ⟨regular, same⟩ := regular_of_ofValue? item
      (fun part inside => admits part (List.mem_append_left _ inside)) first
    obtain ⟨regularRest, sameRest⟩ := regular_of_ofItems? rest
      (fun part inside => admits part (List.mem_append_right _ inside)) others
    exact ⟨List.forall_mem_cons.2 ⟨regular, regularRest⟩, congrArg₂ List.cons same sameRest⟩

theorem regular_of_ofEntries? : (entries : List (String × Value)) →
    Admits (Value.entryParts entries) → ∀ {tomls : List (String × TomlValue)},
    ofEntries? entries = some tomls →
    (∀ toml ∈ tomls, toml.2.Regular) ∧ tomls.map entryValue = entries
  | [], _, _, written => by
    cases written
    exact ⟨nofun, rfl⟩
  | (key, value) :: rest, admits, _, written => by
    obtain ⟨toml, first, written⟩ := Option.bind_eq_some_iff.1 written
    obtain ⟨tomls, others, ⟨⟩⟩ := Option.bind_eq_some_iff.1 written
    obtain ⟨regular, same⟩ := regular_of_ofValue? value
      (fun part inside => admits part (List.mem_append_left _ inside)) first
    obtain ⟨regularRest, sameRest⟩ := regular_of_ofEntries? rest
      (fun part inside => admits part (List.mem_append_right _ inside)) others
    exact ⟨List.forall_mem_cons.2 ⟨regular, regularRest⟩,
      congrArg₂ List.cons (Prod.ext rfl same) sameRest⟩

end

/-! ### Values that have none -/

/-- Two results are joined unless one of them is missing. -/
theorem bind_bind_eq_none_iff {α β γ : Type} {first : Option α} {second : Option β}
    (join : α → β → γ) :
    (first.bind fun left => second.bind fun right => some (join left right)) = none ↔
      first = none ∨ second = none := by
  cases first <;> cases second <;> simp

theorem ofEntries?_eq_none_iff_exists {entries : List (String × Value)} :
    ofEntries? entries = none ↔ ∃ entry ∈ entries, ofValue? entry.2 = none := by
  induction entries with
  | nil => exact ⟨nofun, nofun⟩
  | cons entry entries inductionHypothesis =>
    simp only [List.mem_cons, exists_eq_or_imp]
    rw [← inductionHypothesis]
    exact bind_bind_eq_none_iff fun toml tomls => (entry.1, toml) :: tomls

/-- The TOML values of entries stand under the same keys. -/
theorem forall₂_of_ofEntries? {entries : List (String × Value)}
    {tomls : List (String × TomlValue)} (written : ofEntries? entries = some tomls) :
    List.Forall₂ (fun entry toml => entry.1 = toml.1 ∧ ofValue? entry.2 = some toml.2)
      entries tomls := by
  induction entries generalizing tomls with
  | nil =>
    obtain rfl := Option.some.inj written
    exact .nil
  | cons entry entries inductionHypothesis =>
    obtain ⟨toml, first, written⟩ := Option.bind_eq_some_iff.1 written
    obtain ⟨others, rest, ⟨⟩⟩ := Option.bind_eq_some_iff.1 written
    exact .cons ⟨rfl, first⟩ (inductionHypothesis rest)

mutual

/-- A value has no TOML value exactly if something that TOML cannot express stands inside it. -/
theorem ofValue?_eq_none_iff : (value : Value) → value.IsWellFormed →
    (ofValue? value = none ↔ ∃ part ∈ value.parts, part.IsInexpressible)
  | .null, _ => by simp [ofValue?, Value.parts, Value.IsInexpressible]
  | .boolean _, _ => by simp [ofValue?, Value.parts, Value.IsInexpressible]
  | .integer number, wellFormed => by
    have bounds : -0x8000000000000000 ≤ number ∧ number < 0x10000000000000000 :=
      wellFormed _ List.mem_cons_self
    simp [ofValue?, Value.parts, Value.IsInexpressible, Toml.isWord, bounds.1]
    omega
  | .float _, _ => by simp [ofValue?, Value.parts, Value.IsInexpressible]
  | .string _, _ => by simp [ofValue?, Value.parts, Value.IsInexpressible]
  | .array items, wellFormed => by
    rw [ofValue?, Option.map_eq_none_iff, ofItems?_eq_none_iff items fun part inside =>
      wellFormed part (List.mem_cons_of_mem _ inside)]
    simp [Value.parts, Value.IsInexpressible]
  | .object entries, wellFormed => by
    rw [ofValue?, Option.map_eq_none_iff, ofEntries?_eq_none_iff entries fun part inside =>
      wellFormed part (List.mem_cons_of_mem _ inside)]
    simp [Value.parts, Value.IsInexpressible]

theorem ofItems?_eq_none_iff : (items : List Value) →
    (∀ part ∈ Value.itemParts items, part.IsOrderly) →
    (ofItems? items = none ↔ ∃ part ∈ Value.itemParts items, part.IsInexpressible)
  | [], _ => by simp [ofItems?, Value.itemParts]
  | item :: rest, wellFormed => by
    have first := ofValue?_eq_none_iff item fun part inside =>
      wellFormed part (List.mem_append_left _ inside)
    have others := ofItems?_eq_none_iff rest fun part inside =>
      wellFormed part (List.mem_append_right _ inside)
    rw [Value.itemParts]
    simp only [List.mem_append, or_and_right, exists_or]
    rw [← first, ← others]
    exact bind_bind_eq_none_iff List.cons

theorem ofEntries?_eq_none_iff : (entries : List (String × Value)) →
    (∀ part ∈ Value.entryParts entries, part.IsOrderly) →
    (ofEntries? entries = none ↔ ∃ part ∈ Value.entryParts entries, part.IsInexpressible)
  | [], _ => by simp [ofEntries?, Value.entryParts]
  | (key, value) :: rest, wellFormed => by
    have first := ofValue?_eq_none_iff value fun part inside =>
      wellFormed part (List.mem_append_left _ inside)
    have others := ofEntries?_eq_none_iff rest fun part inside =>
      wellFormed part (List.mem_append_right _ inside)
    rw [Value.entryParts]
    simp only [List.mem_append, or_and_right, exists_or]
    rw [← first, ← others]
    exact bind_bind_eq_none_iff fun toml tomls => (key, toml) :: tomls

end

end TomlValue

end ErrorLint
