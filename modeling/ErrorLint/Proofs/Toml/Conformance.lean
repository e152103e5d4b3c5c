/-
This file says what it means that a library keeps to TOML: it reads every text as the table
that the text means, whatever it does with the order of entries, and the texts that it writes
mean what was to be written. The reader and the writer of this project keep to it. The reader
has to go down as far as something is nested in what was written; but each level stands in the
text as a bracket, a brace or a key, so there are no more levels than characters.
-/

import ErrorLint.Proofs.Toml.Lines
import ErrorLint.Toml.Library
import Mathlib.Data.List.Forall2

namespace ErrorLint

/-! ### The meaning of a text -/

namespace TomlValue

/-- The values that differ in nothing but the order of the entries of tables. -/
inductive Alike : TomlValue → TomlValue → Prop where
  | refl (value : TomlValue) : Alike value value
  | array {lefts rights : List TomlValue} (items : List.Forall₂ Alike lefts rights) :
    Alike (.array lefts) (.array rights)
  | table {lefts middle rights : List (String × TomlValue)}
    (keys : lefts.map Prod.fst = middle.map Prod.fst)
    (values : List.Forall₂ Alike (lefts.map Prod.snd) (middle.map Prod.snd))
    (perm : middle.Perm rights) : Alike (.table lefts) (.table rights)

end TomlValue

/-- The root table that a text means, in any order of its entries. -/
def Toml.Means (text : String) (entries : List (String × TomlValue)) : Prop :=
  ∃ listed, root? text.toList = some listed ∧ (TomlValue.table listed).Alike (.table entries)

/-- The libraries that keep to TOML. What they make of the text of a floating-point number is
left open. -/
structure TomlLibrary.IsToml (library : TomlLibrary) : Prop where
  /-- A text is read as the table that it means. -/
  reads : ∀ {text entries}, Toml.Means text entries →
    ∃ found, library.read text = .ok found ∧ (TomlValue.table found).Alike (.table entries)
  /-- What TOML can express is written as a text that means it. -/
  writes : ∀ {entries tomls}, TomlValue.ofEntries? entries = some tomls →
    ∃ text, library.write entries = .ok text ∧
      ((TomlValue.table tomls).Regular → Toml.Means text tomls)
  /-- What TOML cannot express is not written. -/
  refuses : ∀ {entries}, TomlValue.ofEntries? entries = none →
    ∃ message, library.write entries = .error message

namespace Toml

variable {limit : Nat} {entries : List (String × TomlValue)} {text : List Char}
  {texts : List (List Char)}

/-! ### Nesting and length -/

theorem itemsNesting_lt {bound : Nat} (positive : 0 < bound) {items : List TomlValue}
    (below : ∀ item ∈ items, item.nesting < bound) : TomlValue.itemsNesting items < bound := by
  induction items with
  | nil => exact positive
  | cons item items inductionHypothesis =>
    obtain ⟨first, others⟩ := List.forall_mem_cons.1 below
    exact Nat.max_lt.2 ⟨first, inductionHypothesis others⟩

theorem entriesNesting_lt {bound : Nat} (positive : 0 < bound)
    (below : ∀ entry ∈ entries, entry.2.nesting < bound) :
    TomlValue.entriesNesting entries < bound := by
  induction entries with
  | nil => exact positive
  | cons entry entries inductionHypothesis =>
    obtain ⟨first, others⟩ := List.forall_mem_cons.1 below
    exact Nat.max_lt.2 ⟨first, inductionHypothesis others⟩

theorem sublist_intercalate (separator : List Char) (inside : text ∈ texts) :
    text.Sublist (separator.intercalate texts) := by
  induction texts with
  | nil => cases inside
  | cons first texts inductionHypothesis =>
    cases texts with
    | nil =>
      obtain rfl := List.mem_singleton.1 inside
      rw [List.intercalate_singleton]
    | cons second texts =>
      rw [List.intercalate_cons_cons]
      obtain rfl | inside := List.mem_cons.1 inside
      · exact (List.sublist_append_left _ _).trans (List.sublist_append_left _ _)
      · exact (inductionHypothesis inside).trans (List.sublist_append_right _ _)

/-- The brackets stand around every item. -/
theorem length_lt_length_writeItems (inside : text ∈ texts) :
    text.length < (writeItems texts).length := by
  unfold writeItems
  split
  · cases inside
  · obtain rfl := List.mem_singleton.1 inside
    rw [List.length_append, List.length_cons]
    exact Nat.lt_add_right _ (Nat.lt_succ_self _)
  · have line : text.Sublist
        (texts.flatMap fun item => "\n    ".toList ++ item ++ [',']) := by
      refine List.Sublist.trans ?_ (List.sublist_flatten_of_mem (List.mem_map_of_mem inside))
      exact (List.sublist_append_right _ _).trans (List.sublist_append_left _ _)
    rw [List.length_append, List.length_cons]
    exact Nat.lt_add_right _ (Nat.lt_succ_of_le line.length_le)

/-- The braces stand around every entry. -/
theorem length_lt_length_writeInlineEntries (inside : text ∈ texts) :
    text.length < (writeInlineEntries texts).length := by
  unfold writeInlineEntries
  split
  · cases inside
  · have within := (sublist_intercalate ", ".toList inside).length_le
    simp only [List.length_append, List.length_cons]
    omega

theorem entryTexts_eq_map (entries : List (String × TomlValue)) :
    entryTexts entries = entries.map fun entry =>
      writeKey entry.1.toList ++ " = ".toList ++ writeValue entry.2 := by
  induction entries with
  | nil => rfl
  | cons entry entries inductionHypothesis =>
    rw [entryTexts, inductionHypothesis, List.map_cons]

/-- A value is nested no deeper than its text is long. -/
theorem nesting_le_length_writeValue {value : TomlValue} (regular : value.Regular) :
    value.nesting ≤ (writeValue value).length := by
  induction regular with
  | string => exact Nat.zero_le _
  | boolean => exact Nat.zero_le _
  | integer => exact Nat.zero_le _
  | @array items regular inductionHypothesis =>
    rw [TomlValue.nesting, writeValue, valueTexts_eq_map]
    refine itemsNesting_lt ?_ fun item inside => ?_
    · obtain ⟨others, same⟩ := exists_writeItems_eq_cons (items.map writeValue)
      rw [same]
      exact Nat.zero_lt_succ _
    · exact Nat.lt_of_le_of_lt (inductionHypothesis item inside)
        (length_lt_length_writeItems (List.mem_map_of_mem inside))
  | @table entries distinct regular inductionHypothesis =>
    rw [TomlValue.nesting, writeValue]
    refine entriesNesting_lt ?_ fun entry inside => ?_
    · obtain ⟨others, same⟩ := exists_writeInlineEntries_eq_cons (entryTexts entries)
      rw [same]
      exact Nat.zero_lt_succ _
    · rw [entryTexts_eq_map]
      have value : (writeValue entry.2).length ≤
          (writeKey entry.1.toList ++ " = ".toList ++ writeValue entry.2).length :=
        (List.sublist_append_right _ _).length_le
      exact Nat.lt_of_le_of_lt (Nat.le_trans (inductionHypothesis entry inside) value)
        (length_lt_length_writeInlineEntries (List.mem_map_of_mem inside))

/-- A line that is shorter than the limit keeps to it. -/
theorem Line.Regular.isShallow_of_length_lt {line : Line} (regular : line.Regular)
    (short : line.write.length < limit) : line.isShallow limit = true := by
  cases regular with
  | blank => rfl
  | @heading title present =>
    have path : (writePath title.path).Sublist title.write := by
      unfold Heading.write
      split
      · exact (List.sublist_append_right _ _).trans (List.sublist_append_left _ _)
      · exact ((List.sublist_append_left _ _).trans (List.sublist_cons_self _ _))
    exact decide_eq_true (Nat.lt_of_le_of_lt
      (Nat.le_trans (length_le_length_writePath title.path) path.length_le) short)
  | @assignment key value regular =>
    have written : (writeValue value).Sublist (Assignment.write ⟨[key], value⟩) :=
      (List.sublist_append_right _ _).trans (List.sublist_append_left _ _)
    exact decide_eq_true (Nat.lt_of_le_of_lt
      (Nat.le_trans (nesting_le_length_writeValue regular) written.length_le) short)

/-- What is written for a table means the table with the plain entries first. -/
theorem root?_writeTable (regular : (TomlValue.table entries).Regular) :
    root? (writeTable entries) =
      some (TomlValue.plainEntries entries ++ TomlValue.headedEntries entries) := by
  rw [root?, readTable?_writeTable (by omega) regular, if_pos]
  rw [← all_isShallow_iff, List.all_eq_true]
  intro line inside
  refine (regular_lines regular line inside).isShallow_of_length_lt ?_
  have within : line.write.Sublist (writeTable entries) := by
    rw [writeTable, Document.write_eq]
    exact List.sublist_flatten_of_mem (List.mem_map_of_mem inside)
  exact Nat.lt_of_le_of_lt within.length_le (by omega)

end Toml

/-! ### The library of this project -/

namespace TomlValue

variable {entries : List (String × TomlValue)}

/-- Moving the plain entries of tables before the others leaves a value alike. -/
theorem Regular.alike_arranged {value : TomlValue} (regular : value.Regular) :
    value.arranged.Alike value := by
  induction regular with
  | string => exact .refl _
  | boolean => exact .refl _
  | integer => exact .refl _
  | @array items regular inductionHypothesis =>
    rw [arranged]
    split
    · rw [arrangedItems_eq_map]
      exact .array (List.forall₂_map_left_iff.2 (List.forall₂_same.2 inductionHypothesis))
    · exact .refl _
  | @table entries distinct regular inductionHypothesis =>
    rw [arranged, headedEntries_eq_map]
    refine .table ?_ ?_ (perm_plainEntries entries)
    · rw [List.map_append, List.map_append, List.map_map]
      rfl
    · rw [List.map_append, List.map_append, List.map_map]
      refine List.rel_append (List.forall₂_same.2 fun value _ => .refl value) ?_
      rw [List.forall₂_map_left_iff, List.forall₂_map_right_iff, List.forall₂_same]
      exact fun entry inside => inductionHypothesis entry (List.mem_of_mem_filter inside)

end TomlValue

/-- The library of this project keeps to TOML, if its reader has no limit of nesting. -/
theorem Toml.isToml_library : (library none).IsToml where
  reads := by
    rintro text entries ⟨listed, read, alike⟩
    refine ⟨listed, ?_, alike⟩
    show readText none text = .ok listed
    rw [readText, Option.elim_none, read]
  writes := by
    intro entries tomls expressible
    refine ⟨String.ofList (writeTable tomls), ?_,
      fun regular => ⟨_, ?_, regular.alike_arranged⟩⟩
    · show writeText entries = _
      rw [writeText, expressible]
    · rw [String.toList_ofList, root?_writeTable regular]
  refuses := by
    intro entries inexpressible
    refine ⟨"options that TOML cannot express", ?_⟩
    show writeText entries = _
    rw [writeText, inexpressible]

end ErrorLint
