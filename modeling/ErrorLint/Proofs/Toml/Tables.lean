/-
This file says what the document that is written for a table means. The sections of an entry
stand together, and each of them leads through the key of the entry; so a run of them changes
only what stands at that key, and what it makes there is what the sections without the key
would make alone. By induction on the table the document means the table itself, except that
in every table with a heading the plain entries have moved before the others.
-/

import ErrorLint.Toml.Writer
import Mathlib.Data.List.Basic

namespace ErrorLint

namespace TomlValue

/-- The values that are written and read back alike: there are no floating-point numbers and no
dates, and in no table a key stands twice. -/
inductive Regular : TomlValue → Prop where
  | string (text : String) : Regular (.string text)
  | boolean (truth : Bool) : Regular (.boolean truth)
  | integer (number : Int64) : Regular (.integer number)
  | array {items : List TomlValue} (regular : ∀ item ∈ items, Regular item) :
    Regular (.array items)
  | table {entries : List (String × TomlValue)} (distinct : (entries.map Prod.fst).Nodup)
    (regular : ∀ entry ∈ entries, Regular entry.2) : Regular (.table entries)

/-- The entries without headings. -/
def plainEntries (entries : List (String × TomlValue)) : List (String × TomlValue) :=
  entries.filter fun entry => !entry.2.hasHeading

mutual

/-- The value with the plain entries of its tables before the others, as far as its tables
have headings themselves. -/
def arranged : TomlValue → TomlValue
  | .table entries => .table (plainEntries entries ++ headedEntries entries)
  | .array items =>
    if (TomlValue.array items).hasHeading then .array (arrangedItems items) else .array items
  | value => value

/-- The entries with headings, each of them arranged. -/
def headedEntries : List (String × TomlValue) → List (String × TomlValue)
  | [] => []
  | (key, value) :: rest =>
    if value.hasHeading then (key, value.arranged) :: headedEntries rest else headedEntries rest

def arrangedItems : List TomlValue → List TomlValue
  | [] => []
  | item :: rest => item.arranged :: arrangedItems rest

end

/-- The plain entries and the others are all entries. -/
theorem perm_plainEntries (entries : List (String × TomlValue)) :
    (plainEntries entries ++ entries.filter (·.2.hasHeading)).Perm entries :=
  List.perm_append_comm.trans (List.filter_append_perm _ entries)

theorem headedEntries_eq_map (entries : List (String × TomlValue)) :
    headedEntries entries =
      (entries.filter (·.2.hasHeading)).map fun entry => (entry.1, entry.2.arranged) := by
  induction entries with
  | nil => rfl
  | cons entry entries inductionHypothesis =>
    rw [headedEntries, inductionHypothesis]
    cases headed : entry.2.hasHeading <;> simp [headed]

theorem arrangedItems_eq_map (items : List TomlValue) :
    arrangedItems items = items.map arranged := by
  induction items with
  | nil => rfl
  | cons item items inductionHypothesis => rw [arrangedItems, inductionHypothesis, List.map_cons]

end TomlValue

namespace Toml

variable {key : String} {entries : List (String × TomlValue)}
  {drafts inner : List (String × Draft)} {part : Section}

/-! ### Plain entries -/

/-- The drafts of plain entries. -/
def leaves (entries : List (String × TomlValue)) : List (String × Draft) :=
  entries.map fun entry => (entry.1, .leaf entry.2)

theorem keys_leaves : (leaves entries).map Prod.fst = entries.map Prod.fst := by
  simp [leaves]

theorem finishEntries_append (first second : List (String × Draft)) :
    Draft.finishEntries (first ++ second) =
      Draft.finishEntries first ++ Draft.finishEntries second := by
  induction first with
  | nil => rfl
  | cons entry first inductionHypothesis =>
    simp [Draft.finishEntries, inductionHypothesis]

theorem finishEntries_leaves : Draft.finishEntries (leaves entries) = entries := by
  induction entries with
  | nil => rfl
  | cons entry entries inductionHypothesis =>
    simp only [leaves, List.map_cons] at inductionHypothesis ⊢
    simp [Draft.finishEntries, Draft.finish, inductionHypothesis]

theorem lookup_of_fresh {α : Type} {pairs : List (String × α)}
    (fresh : key ∉ pairs.map Prod.fst) : pairs.lookup key = none := by
  rw [List.lookup_eq_none_iff]
  rintro entry inside
  rw [bne_iff_ne]
  rintro rfl
  exact fresh (List.mem_map_of_mem inside)

theorem assign_single (fresh : key ∉ drafts.map Prod.fst) (value : TomlValue) :
    Draft.assign drafts ⟨[key], value⟩ = some (drafts ++ [(key, .leaf value)]) := by
  simp [Draft.assign, Draft.within, Draft.add, lookup_of_fresh fresh]

/-- Assignments to new keys append their entries. -/
theorem assignAll_single (distinct : (drafts.map Prod.fst ++ entries.map Prod.fst).Nodup) :
    Draft.assignAll (entries.map fun entry => ⟨[entry.1], entry.2⟩) drafts =
      some (drafts ++ leaves entries) := by
  induction entries generalizing drafts with
  | nil => simp [Draft.assignAll, leaves]
  | cons entry entries inductionHypothesis =>
    have fresh : entry.1 ∉ drafts.map Prod.fst := by
      intro inside
      exact (List.nodup_append.1 distinct).2.2 _ inside _ List.mem_cons_self rfl
    have rest := @inductionHypothesis (drafts ++ [(entry.1, .leaf entry.2)]) (by
      simpa using distinct)
    unfold Draft.assignAll at rest ⊢
    rw [List.map_cons, List.foldlM_cons, assign_single fresh]
    simpa [leaves] using rest

theorem plainAssignments_eq (entries : List (String × TomlValue)) :
    plainAssignments entries =
      (TomlValue.plainEntries entries).map fun entry => ⟨[entry.1], entry.2⟩ :=
  rfl

/-! ### Sections below a key -/

/-- The section one level down, below a key. -/
def Section.under (key : String) (part : Section) : Section :=
  { part with heading := { part.heading with path := key :: part.heading.path } }

mutual

theorem sectionsOf_cons (key : String) (path : List String) : (value : TomlValue) →
    sectionsOf (key :: path) value = (sectionsOf path value).map (Section.under key)
  | .table entries => by
    rw [sectionsOf, sectionsOf, List.map_append, entrySections_cons]
    congr 1
    unfold ownSection
    dsimp only
    split <;> rfl
  | .array items => by
    rw [sectionsOf, sectionsOf]
    split
    · exact itemSections_cons key path items
    · rfl
  | .string _ | .integer _ | .float _ | .boolean _ | .dateTime _ => rfl

theorem entrySections_cons (key : String) (path : List String) :
    (entries : List (String × TomlValue)) →
    entrySections (key :: path) entries = (entrySections path entries).map (Section.under key)
  | [] => rfl
  | (inner, value) :: rest => by
    rw [entrySections, entrySections, List.map_append, List.cons_append, sectionsOf_cons,
      entrySections_cons]

theorem itemSections_cons (key : String) (path : List String) : (items : List TomlValue) →
    itemSections (key :: path) items = (itemSections path items).map (Section.under key)
  | [] => rfl
  | .table entries :: rest => by
    rw [itemSections, itemSections, List.map_append, List.map_cons, entrySections_cons,
      itemSections_cons]
    rfl
  | .string _ :: rest | .integer _ :: rest | .float _ :: rest | .boolean _ :: rest
  | .dateTime _ :: rest | .array _ :: rest => by
    rw [itemSections, itemSections, itemSections_cons]
    all_goals nofun

end

/-- What a section puts into the table that its heading names. -/
def Section.open (part : Section) (key : String) (entries : List (String × Draft)) :
    Option (List (String × Draft)) :=
  if part.heading.isItem then Draft.openItem key part.assignments entries
  else Draft.openTable key part.assignments entries

/-- A draft that holds the entries of a table under construction. -/
inductive IsFrame : (List (String × Draft) → Draft) → Prop where
  | table (origin : Origin) : IsFrame (.table origin)
  | tables (finished : List TomlValue) : IsFrame (.tables finished)

variable {frame : List (String × Draft) → Draft}

theorem lookup_frame (fresh : key ∉ drafts.map Prod.fst) (draft : Draft) :
    (drafts ++ [(key, draft)]).lookup key = some draft := by
  simp [List.lookup_append, lookup_of_fresh fresh]

theorem replace_frame (fresh : key ∉ drafts.map Prod.fst) (old new : Draft) :
    Draft.replace key new (drafts ++ [(key, old)]) = drafts ++ [(key, new)] := by
  have kept : Draft.replace key new drafts = drafts := by
    rw [Draft.replace]
    conv_rhs => rw [← List.map_id drafts]
    refine List.map_congr_left fun entry inside => if_neg ?_
    rintro rfl
    exact fresh (List.mem_map_of_mem inside)
  rw [Draft.replace] at kept ⊢
  rw [List.map_append, kept]
  simp

theorem within_origin (making : Origin)
    (change : List (String × Draft) → Option (List (String × Draft))) (path : List String)
    (first second : Origin) :
    Draft.within making (fun _ => change) path first drafts =
      Draft.within making (fun _ => change) path second drafts := by
  cases path <;> rfl

theorem addSection_eq {path : List String} (same : part.heading.path = path ++ [key]) :
    Draft.addSection drafts part =
      Draft.within .passage (fun _ => part.open key) path .heading drafts := by
  rw [Draft.addSection, same, List.getLast?_concat, List.dropLast_concat]
  rfl

/-- A section below a key changes what stands at the key, and that as the section would do
without the key. -/
theorem addSection_under (isFrame : IsFrame frame) (fresh : key ∉ drafts.map Prod.fst)
    (present : part.heading.path ≠ []) :
    Draft.addSection (drafts ++ [(key, frame inner)]) (part.under key) =
      (Draft.addSection inner part).map fun inner => drafts ++ [(key, frame inner)] := by
  obtain ⟨path, last, same⟩ := (List.eq_nil_or_concat' part.heading.path).resolve_left present
  have deeper : (part.under key).heading.path = (key :: path) ++ [last] :=
    congrArg (key :: ·) same
  rw [addSection_eq same, addSection_eq deeper, Draft.within, lookup_frame fresh]
  cases isFrame with
  | table origin =>
    simp only [reduceCtorEq, decide_false, Bool.false_and, Bool.false_eq_true, if_false]
    rw [within_origin .passage _ path origin .heading]
    simp only [replace_frame fresh]
    exact Option.map_eq_bind.symm
  | tables finished =>
    simp only [replace_frame fresh]
    exact Option.map_eq_bind.symm

/-- The first section below a new key makes a table for it. -/
theorem addSection_under_new (fresh : key ∉ drafts.map Prod.fst)
    (present : part.heading.path ≠ []) :
    Draft.addSection drafts (part.under key) =
      (Draft.addSection [] part).map fun inner => drafts ++ [(key, .table .passage inner)] := by
  obtain ⟨path, last, same⟩ := (List.eq_nil_or_concat' part.heading.path).resolve_left present
  have deeper : (part.under key).heading.path = (key :: path) ++ [last] :=
    congrArg (key :: ·) same
  rw [addSection_eq same, addSection_eq deeper, Draft.within, lookup_of_fresh fresh]
  dsimp only
  rw [within_origin .passage _ path .passage .heading]
  exact Option.map_eq_bind.symm

/-- A run of sections below a key is a run of the sections without the key. -/
theorem foldlM_under (isFrame : IsFrame frame) (fresh : key ∉ drafts.map Prod.fst)
    {parts : List Section} (present : ∀ part ∈ parts, part.heading.path ≠ []) :
    (parts.map (Section.under key)).foldlM Draft.addSection (drafts ++ [(key, frame inner)]) =
      (parts.foldlM Draft.addSection inner).map fun inner => drafts ++ [(key, frame inner)] := by
  induction parts generalizing inner with
  | nil => rfl
  | cons part parts inductionHypothesis =>
    rw [List.map_cons, List.foldlM_cons, List.foldlM_cons,
      addSection_under isFrame fresh (present part List.mem_cons_self)]
    cases Draft.addSection inner part with
    | none => rfl
    | some inner =>
      exact inductionHypothesis fun part inside => present part (List.mem_cons_of_mem _ inside)

theorem foldlM_under_new (fresh : key ∉ drafts.map Prod.fst) {parts : List Section}
    (some : parts ≠ []) (present : ∀ part ∈ parts, part.heading.path ≠ []) :
    (parts.map (Section.under key)).foldlM Draft.addSection drafts =
      (parts.foldlM Draft.addSection []).map fun inner =>
        drafts ++ [(key, .table .passage inner)] := by
  obtain ⟨part, parts, rfl⟩ := List.exists_cons_of_ne_nil some
  rw [List.map_cons, List.foldlM_cons, List.foldlM_cons,
    addSection_under_new fresh (present part List.mem_cons_self)]
  cases Draft.addSection [] part with
  | none => rfl
  | some inner =>
    exact foldlM_under (.table .passage) fresh fun part inside =>
      present part (List.mem_cons_of_mem _ inside)

/-! ### The sections of an entry -/

theorem sectionsOf_of_plain {value : TomlValue} (plain : value.hasHeading = false)
    (path : List String) : sectionsOf path value = [] := by
  cases value with
  | table entries => cases plain
  | array items =>
    rw [sectionsOf, if_neg]
    simp [plain]
  | _ => rfl

theorem sectionsOf_singleton (key : String) (value : TomlValue) :
    sectionsOf [key] value = (sectionsOf [] value).map (Section.under key) :=
  sectionsOf_cons key [] value

theorem path_ne_of_mem_entrySections :
    ∀ part ∈ entrySections [] entries, part.heading.path ≠ [] := by
  induction entries with
  | nil => exact nofun
  | cons entry entries inductionHypothesis =>
    intro part inside
    rw [entrySections, List.nil_append, sectionsOf_singleton, List.mem_append,
      List.mem_map] at inside
    obtain ⟨part, -, rfl⟩ | inside := inside
    · exact List.cons_ne_nil _ _
    · exact inductionHypothesis part inside

/-- The sections of entries below a key build what stands at the key. -/
theorem foldlM_entrySections_below (isFrame : IsFrame frame) (fresh : key ∉ drafts.map Prod.fst)
    {built : List (String × Draft)}
    (made : (entrySections [] entries).foldlM Draft.addSection inner = some built) :
    (entrySections [key] entries).foldlM Draft.addSection (drafts ++ [(key, frame inner)]) =
      some (drafts ++ [(key, frame built)]) := by
  rw [entrySections_cons, foldlM_under isFrame fresh path_ne_of_mem_entrySections, made]
  rfl

/-- The sections of a value at a new key append an entry that becomes the value, arranged. -/
def BuildsValue (value : TomlValue) : Prop :=
  ∀ (key : String) (drafts : List (String × Draft)), key ∉ drafts.map Prod.fst →
    ∃ draft, (sectionsOf [key] value).foldlM Draft.addSection drafts =
      some (drafts ++ [(key, draft)]) ∧ draft.finish = value.arranged

/-- The sections of entries, on top of the plain ones, make drafts that become the entries,
the plain ones first. -/
def BuildsEntries (entries : List (String × TomlValue)) : Prop :=
  ∃ built, (entrySections [] entries).foldlM Draft.addSection
      (leaves (TomlValue.plainEntries entries)) = some built ∧
    Draft.finishEntries built =
      TomlValue.plainEntries entries ++ TomlValue.headedEntries entries

/-- The sections of entries append the entries that have headings, one after the other. -/
theorem foldlM_entrySections
    (builds : ∀ entry ∈ entries, entry.2.hasHeading = true → BuildsValue entry.2)
    (distinct : (drafts.map Prod.fst ++
      (entries.filter (·.2.hasHeading)).map Prod.fst).Nodup) :
    ∃ built, (entrySections [] entries).foldlM Draft.addSection drafts =
        some (drafts ++ built) ∧
      Draft.finishEntries built = TomlValue.headedEntries entries := by
  induction entries generalizing drafts with
  | nil => exact ⟨[], by simp [entrySections], rfl⟩
  | cons entry entries inductionHypothesis =>
    obtain ⟨key, value⟩ := entry
    have others := fun entry inside => builds entry (List.mem_cons_of_mem _ inside)
    rw [entrySections, List.nil_append, TomlValue.headedEntries]
    cases headed : value.hasHeading with
    | false =>
      rw [sectionsOf_of_plain headed, List.nil_append, if_neg nofun]
      exact inductionHypothesis others (by simpa [headed] using distinct)
    | true =>
      have fresh : key ∉ drafts.map Prod.fst := by
        intro inside
        exact (List.nodup_append.1 distinct).2.2 _ inside key (by simp [headed]) rfl
      obtain ⟨draft, made, finished⟩ :=
        builds (key, value) List.mem_cons_self headed key drafts fresh
      obtain ⟨built, madeRest, finishedRest⟩ :=
        @inductionHypothesis (drafts ++ [(key, draft)]) others (by simpa [headed] using distinct)
      refine ⟨(key, draft) :: built, ?_, ?_⟩
      · rw [List.foldlM_append, made]
        simpa using madeRest
      · rw [Draft.finishEntries, finished, finishedRest, if_pos rfl]

theorem buildsEntries (distinct : (entries.map Prod.fst).Nodup)
    (builds : ∀ entry ∈ entries, entry.2.hasHeading = true → BuildsValue entry.2) :
    BuildsEntries entries := by
  have apart : ((leaves (TomlValue.plainEntries entries)).map Prod.fst ++
      (entries.filter (·.2.hasHeading)).map Prod.fst).Nodup := by
    rw [keys_leaves, ← List.map_append]
    exact ((TomlValue.perm_plainEntries entries).map Prod.fst).nodup_iff.2 distinct
  obtain ⟨built, made, finished⟩ := foldlM_entrySections builds apart
  refine ⟨_, made, ?_⟩
  rw [finishEntries_append, finishEntries_leaves, finished]

/-! ### Tables -/

theorem assignAll_plainAssignments (distinct : (entries.map Prod.fst).Nodup) :
    Draft.assignAll (plainAssignments entries) [] =
      some (leaves (TomlValue.plainEntries entries)) := by
  have kept : ((TomlValue.plainEntries entries).map Prod.fst).Nodup :=
    distinct.sublist (List.Sublist.map _ List.filter_sublist)
  rw [plainAssignments_eq, assignAll_single (by simpa using kept), List.nil_append]

theorem addSection_table (fresh : key ∉ drafts.map Prod.fst)
    (distinct : (entries.map Prod.fst).Nodup) :
    Draft.addSection drafts ⟨⟨false, [key]⟩, plainAssignments entries⟩ =
      some (drafts ++ [(key, .table .heading (leaves (TomlValue.plainEntries entries)))]) := by
  rw [addSection_eq (List.nil_append [key]).symm, Draft.within, Section.open, if_neg nofun,
    Draft.openTable, lookup_of_fresh fresh]
  dsimp only
  rw [assignAll_plainAssignments distinct]
  rfl

theorem eq_nil_of_parts (noPlain : TomlValue.plainEntries entries = [])
    (noHeaded : TomlValue.headedEntries entries = []) : entries = [] := by
  cases entries with
  | nil => rfl
  | cons entry entries =>
    rw [TomlValue.headedEntries] at noHeaded
    split at noHeaded
    · cases noHeaded
    · rename_i plain
      simp [TomlValue.plainEntries, plain] at noPlain

/-- A table under a heading, or one whose heading is left out because its sub-tables name it. -/
theorem BuildsEntries.table (builds : BuildsEntries entries)
    (distinct : (entries.map Prod.fst).Nodup) : BuildsValue (.table entries) := by
  intro key drafts fresh
  obtain ⟨built, made, finished⟩ := builds
  have value : ∀ origin,
      (Draft.table origin built).finish = (TomlValue.table entries).arranged := by
    intro origin
    rw [Draft.finish, finished, TomlValue.arranged]
  rw [sectionsOf, ownSection]
  split
  · -- The first sub-table makes the table on its way, so there must be one.
    rename_i omitted
    simp only [plainAssignments_eq, Bool.and_eq_true, List.isEmpty_iff, List.map_eq_nil_iff,
      Bool.not_eq_true', List.isEmpty_eq_false_iff] at omitted
    have some : entrySections [] entries ≠ [] := by
      intro none
      rw [none, List.foldlM_nil, omitted.1] at made
      obtain rfl : leaves [] = built := Option.some.inj made
      rw [finishEntries_leaves, omitted.1, List.nil_append] at finished
      exact omitted.2 (eq_nil_of_parts omitted.1 finished.symm)
    rw [omitted.1] at made
    rw [List.nil_append, entrySections_cons,
      foldlM_under_new fresh some path_ne_of_mem_entrySections]
    exact ⟨_, congrArg (Option.map _) made, value _⟩
  · rw [List.singleton_append, List.foldlM_cons, addSection_table fresh distinct]
    exact ⟨_, foldlM_entrySections_below (.table .heading) fresh made, value _⟩

/-! ### Arrays of tables -/

theorem addSection_firstItem (fresh : key ∉ drafts.map Prod.fst)
    (distinct : (entries.map Prod.fst).Nodup) :
    Draft.addSection drafts ⟨⟨true, [key]⟩, plainAssignments entries⟩ =
      some (drafts ++ [(key, .tables [] (leaves (TomlValue.plainEntries entries)))]) := by
  rw [addSection_eq (List.nil_append [key]).symm, Draft.within, Section.open, if_pos rfl,
    Draft.openItem, lookup_of_fresh fresh]
  dsimp only
  rw [assignAll_plainAssignments distinct]
  rfl

theorem addSection_nextItem (fresh : key ∉ drafts.map Prod.fst)
    (distinct : (entries.map Prod.fst).Nodup) (finished : List TomlValue) :
    Draft.addSection (drafts ++ [(key, .tables finished inner)])
        ⟨⟨true, [key]⟩, plainAssignments entries⟩ =
      some (drafts ++ [(key, .tables (finished ++ [.table (Draft.finishEntries inner)])
        (leaves (TomlValue.plainEntries entries)))]) := by
  rw [addSection_eq (List.nil_append [key]).symm, Draft.within, Section.open, if_pos rfl,
    Draft.openItem, lookup_frame fresh]
  dsimp only
  rw [assignAll_plainAssignments distinct]
  simp [replace_frame fresh]

/-- The tables that an array is built from. -/
def IsBuiltItem (item : TomlValue) : Prop :=
  ∃ entries, item = .table entries ∧ (entries.map Prod.fst).Nodup ∧ BuildsEntries entries

/-- The sections of further items close the last item and append the others. -/
theorem foldlM_itemSections (fresh : key ∉ drafts.map Prod.fst) {items : List TomlValue}
    (builds : ∀ item ∈ items, IsBuiltItem item) (finished : List TomlValue) :
    ∃ draft, (itemSections [key] items).foldlM Draft.addSection
        (drafts ++ [(key, .tables finished inner)]) = some (drafts ++ [(key, draft)]) ∧
      draft.finish = .array (finished ++ .table (Draft.finishEntries inner) ::
        TomlValue.arrangedItems items) := by
  induction items generalizing finished inner with
  | nil => exact ⟨_, rfl, rfl⟩
  | cons item items inductionHypothesis =>
    obtain ⟨entries, rfl, distinct, built, made, done⟩ := builds item List.mem_cons_self
    obtain ⟨draft, madeRest, doneRest⟩ := @inductionHypothesis built
      (fun item inside => builds item (List.mem_cons_of_mem _ inside))
      (finished ++ [.table (Draft.finishEntries inner)])
    refine ⟨draft, ?_, ?_⟩
    · rw [itemSections, List.cons_append, List.foldlM_cons,
        addSection_nextItem fresh distinct]
      simp only [Option.bind_eq_bind, Option.bind_some, List.foldlM_append]
      rw [foldlM_entrySections_below (.tables _) fresh made]
      exact madeRest
    · rw [doneRest, TomlValue.arrangedItems, TomlValue.arranged, done]
      simp

theorem buildsValue_array {items : List TomlValue} (headed : (TomlValue.array items).hasHeading)
    (builds : ∀ item ∈ items, IsBuiltItem item) : BuildsValue (.array items) := by
  intro key drafts fresh
  rw [sectionsOf, if_pos headed, TomlValue.arranged, if_pos headed]
  cases items with
  | nil => cases headed
  | cons item items =>
    obtain ⟨entries, rfl, distinct, built, made, done⟩ := builds item List.mem_cons_self
    obtain ⟨draft, madeRest, doneRest⟩ := @foldlM_itemSections _ _ built fresh _
      (fun item inside => builds item (List.mem_cons_of_mem _ inside)) []
    refine ⟨draft, ?_, ?_⟩
    · rw [itemSections, List.cons_append, List.foldlM_cons,
        addSection_firstItem fresh distinct]
      simp only [Option.bind_eq_bind, Option.bind_some, List.foldlM_append]
      rw [foldlM_entrySections_below (.tables _) fresh made]
      exact madeRest
    · rw [doneRest, TomlValue.arrangedItems, TomlValue.arranged, done]
      rfl

/-! ### Documents -/

/-- What the sections of a value build, and those of its entries if it is a table. -/
theorem builds_of_regular {value : TomlValue} (regular : value.Regular) :
    (value.hasHeading = true → BuildsValue value) ∧
      (value.isTable = true → IsBuiltItem value) := by
  induction regular with
  | string => exact ⟨nofun, nofun⟩
  | boolean => exact ⟨nofun, nofun⟩
  | integer => exact ⟨nofun, nofun⟩
  | @array items regular inductionHypothesis =>
    refine ⟨fun headed => buildsValue_array headed fun item inside => ?_, nofun⟩
    refine (inductionHypothesis item inside).2 ?_
    rw [TomlValue.hasHeading, Bool.and_eq_true, List.all_eq_true] at headed
    exact headed.2 item inside
  | @table entries distinct regular inductionHypothesis =>
    have builds := buildsEntries distinct fun entry inside => (inductionHypothesis entry inside).1
    exact ⟨fun _ => builds.table distinct, fun _ => ⟨entries, rfl, distinct, builds⟩⟩

/-- The document that is written for a table means the table, with the plain entries first. -/
theorem entries?_ofEntries (regular : (TomlValue.table entries).Regular) :
    (Document.ofEntries entries).entries? =
      some (TomlValue.plainEntries entries ++ TomlValue.headedEntries entries) := by
  obtain ⟨_, ⟨⟩, distinct, built, made, done⟩ := (builds_of_regular regular).2 rfl
  rw [Document.entries?, Document.ofEntries, assignAll_plainAssignments distinct]
  simp only [Option.bind_eq_bind, Option.bind_some, made, done]
  rfl

end Toml

end ErrorLint
