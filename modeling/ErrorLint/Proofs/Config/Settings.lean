/-
This file says what it means to set options. An option has a name and a default, and the
default tells its type. What is given for some of the options comes by their names or in the
order of their declaration; it is accepted if it names no other option and each value is of the
type of its option, and then every option is as given, or has its default.

A record of options is read field by field into a record that starts from the defaults. Seen as
a list of named settings, every field of the record does one step: it sets its own option to the
value, or refuses the value, and leaves the others alone. Since no option is given twice, the
steps do together what is meant.
-/

import ErrorLint.Config.Record
import ErrorLint.Proofs.Config.Options
import Mathlib.Data.List.Forall2
import Mathlib.Data.List.Nodup

namespace ErrorLint

theorem lookup_cons_of_ne {α : Type} {name key : String} {value : α} {rest : List (String × α)}
    (different : name ≠ key) : ((key, value) :: rest).lookup name = rest.lookup name := by
  rw [List.lookup_cons, beq_false_of_ne different]

/-! ### Settings -/

/-- What an option is set to. -/
inductive Setting where
  | flag (value : Bool)
  | texts (values : List String)
  | count (value : Nat)
  deriving DecidableEq

namespace Setting

/-- An option takes a value of its type, and is then set to what the value says. A count has
sixty-four bits. -/
inductive Takes : Setting → Value → Setting → Prop
  | flag (old truth : Bool) : Takes (.flag old) (.boolean truth) (.flag truth)
  | texts (old texts : List String) :
    Takes (.texts old) (.array (texts.map .string)) (.texts texts)
  | count (old : Nat) {number : Nat} (bound : number < 0x10000000000000000) :
    Takes (.count old) (.integer number) (.count number)

/-- What becomes of an option by what is given: it keeps its setting if nothing is given for
it, and takes the value otherwise. -/
inductive Chosen (given : List (String × Value)) : String × Setting → String × Setting → Prop
  | kept {name : String} {setting : Setting} (absent : given.lookup name = none) :
    Chosen given (name, setting) (name, setting)
  | taken {name : String} {value : Value} {old new : Setting}
    (present : given.lookup name = some value) (takes : Takes old value new) :
    Chosen given (name, old) (name, new)

/-- What is given is for options that exist, and makes the options what they are then. -/
structure Resolves (given : List (String × Value)) (defaults settings : List (String × Setting)) :
    Prop where
  known : ∀ name ∈ given.map Prod.fst, name ∈ defaults.map Prod.fst
  chosen : List.Forall₂ (Chosen given) defaults settings

/-- The ways to give options with the given names: not at all, by their names, or in their
order, where the last ones may be missing. -/
inductive Gives (names : List String) : Option Value → List (String × Value) → Prop
  | nothing : Gives names none []
  | null : Gives names (some .null) []
  | byName (entries : List (String × Value)) : Gives names (some (.object entries)) entries
  | inOrder {items : List Value} (short : items.length ≤ names.length) :
    Gives names (some (.array items)) (names.zip items)

/-- A value for options with the given defaults is accepted, and the options are then set so. -/
def Accepts (defaults : List (String × Setting)) (value : Option JsonValue)
    (settings : List (String × Setting)) : Prop :=
  ∃ given, Gives (defaults.map Prod.fst) (value.map JsonValue.value) given ∧
    Resolves given defaults settings

/-! ### One value after the other -/

/-- Two lists are related through a third, member by member. -/
theorem forall₂_comp_iff {α β γ : Type} {first : α → β → Prop} {second : β → γ → Prop}
    {starts : List α} {results : List γ} :
    List.Forall₂ (fun start result => ∃ middle, first start middle ∧ second middle result)
        starts results ↔
      ∃ middles, List.Forall₂ first starts middles ∧ List.Forall₂ second middles results := by
  induction starts generalizing results with
  | nil => simp
  | cons start starts inductionHypothesis =>
    simp only [List.forall₂_cons_left_iff, inductionHypothesis]
    constructor
    · rintro ⟨result, results, ⟨middle, before, after⟩, ⟨middles, befores, afters⟩, rfl⟩
      exact ⟨middle :: middles, ⟨middle, middles, before, befores, rfl⟩, .cons after afters⟩
    · rintro ⟨_, ⟨middle, middles, before, befores, rfl⟩, related⟩
      obtain ⟨result, results, after, afters, rfl⟩ := List.forall₂_cons_left_iff.mp related
      exact ⟨result, results, ⟨middle, before, after⟩, ⟨middles, befores, afters⟩, rfl⟩

section

variable {given rest : List (String × Value)} {name key : String} {value : Value}
  {old setting : Setting} {option result : String × Setting}
  {defaults settings : List (String × Setting)}

theorem fst_of_chosen (chosen : Chosen given option result) : result.1 = option.1 := by
  cases chosen <;> rfl

theorem names_of_chosen (chosen : List.Forall₂ (Chosen given) defaults settings) :
    settings.map Prod.fst = defaults.map Prod.fst := by
  induction chosen with
  | nil => rfl
  | cons first _ inductionHypothesis =>
    rw [List.map_cons, List.map_cons, inductionHypothesis, fst_of_chosen first]

/-- Without a value for it, an option keeps its setting. -/
theorem chosen_iff_of_absent (absent : given.lookup name = none) :
    Chosen given (name, old) result ↔ result = (name, old) := by
  constructor
  · rintro (- | ⟨present, -⟩)
    · rfl
    · rw [absent] at present
      cases present
  · rintro rfl
    exact .kept absent

theorem chosen_iff_of_present (present : given.lookup name = some value) :
    Chosen given (name, old) result ↔
      ∃ setting, Takes old value setting ∧ result = (name, setting) := by
  constructor
  · rintro (absent | ⟨present', takes⟩)
    · rw [absent] at present
      cases present
    · rw [present] at present'
      cases present'
      exact ⟨_, takes, rfl⟩
  · rintro ⟨setting, takes, rfl⟩
    exact .taken present takes

theorem forall₂_chosen_iff_of_absent
    (absent : ∀ option ∈ defaults, given.lookup option.1 = none) :
    List.Forall₂ (Chosen given) defaults settings ↔ settings = defaults := by
  induction defaults generalizing settings with
  | nil => exact List.forall₂_nil_left_iff
  | cons option defaults inductionHypothesis =>
    obtain ⟨name, old⟩ := option
    obtain ⟨first, others⟩ := List.forall_mem_cons.mp absent
    simp only [List.forall₂_cons_left_iff, chosen_iff_of_absent first,
      inductionHypothesis others]
    simp

theorem resolves_nil_iff : Resolves [] defaults settings ↔ settings = defaults := by
  have unchanged : List.Forall₂ (Chosen []) defaults settings ↔ settings = defaults :=
    forall₂_chosen_iff_of_absent fun _ _ => rfl
  rw [← unchanged]
  exact ⟨Resolves.chosen, fun chosen => ⟨nofun, chosen⟩⟩

/-- Without options the defaults hold. -/
theorem accepts_none_iff : Accepts defaults none settings ↔ settings = defaults := by
  rw [← resolves_nil_iff]
  constructor
  · rintro ⟨given, ⟨⟩, resolved⟩
    exact resolved
  · exact fun resolved => ⟨[], .nothing, resolved⟩

theorem accepts_null_iff {written : JsonValue} (null : written.value = .null) :
    Accepts defaults (some written) settings ↔ settings = defaults := by
  rw [← resolves_nil_iff, Accepts, Option.map_some, null]
  constructor
  · rintro ⟨given, ⟨⟩, resolved⟩
    exact resolved
  · exact fun resolved => ⟨[], .null, resolved⟩

/-- A value alone sets its option. -/
theorem forall₂_chosen_singleton_iff {index : Nat} (distinct : (defaults.map Prod.fst).Nodup)
    (located : defaults[index]? = some (key, old)) :
    List.Forall₂ (Chosen [(key, value)]) defaults settings ↔
      ∃ setting, Takes old value setting ∧ settings = defaults.set index (key, setting) := by
  induction defaults generalizing index settings with
  | nil => simp at located
  | cons option defaults inductionHypothesis =>
    obtain ⟨name, default⟩ := option
    obtain ⟨fresh, distinct⟩ := List.nodup_cons.mp distinct
    rw [List.forall₂_cons_left_iff]
    cases index with
    | zero =>
      obtain ⟨rfl, rfl⟩ := Prod.mk.inj (Option.some.inj located).symm
      have absent : ∀ other ∈ defaults, [(key, value)].lookup other.1 = none := by
        intro other inside
        exact lookup_cons_of_ne fun same => fresh (List.mem_map.mpr ⟨other, inside, same⟩)
      simp only [forall₂_chosen_iff_of_absent absent,
        chosen_iff_of_present List.lookup_cons_self]
      constructor
      · rintro ⟨_, _, ⟨setting, takes, rfl⟩, rfl, rfl⟩
        exact ⟨setting, takes, rfl⟩
      · rintro ⟨setting, takes, rfl⟩
        exact ⟨_, _, ⟨setting, takes, rfl⟩, rfl, rfl⟩
    | succ index =>
      have absent : [(key, value)].lookup name = none := by
        refine lookup_cons_of_ne fun same => fresh ?_
        exact List.mem_map.mpr ⟨_, List.mem_of_getElem? located, same.symm⟩
      simp only [chosen_iff_of_absent absent, inductionHypothesis distinct located]
      constructor
      · rintro ⟨_, _, rfl, ⟨setting, takes, rfl⟩, rfl⟩
        exact ⟨setting, takes, rfl⟩
      · rintro ⟨setting, takes, rfl⟩
        exact ⟨_, _, rfl, ⟨setting, takes, rfl⟩, rfl⟩

/-- The first value of several goes to its option before the others go to theirs. -/
theorem chosen_cons_iff (fresh : key ∉ rest.map Prod.fst) :
    Chosen ((key, value) :: rest) option result ↔
      ∃ middle, Chosen [(key, value)] option middle ∧ Chosen rest middle result := by
  obtain ⟨name, old⟩ := option
  by_cases same : name = key
  · subst same
    have absent := Toml.lookup_of_fresh fresh
    simp only [chosen_iff_of_present List.lookup_cons_self]
    constructor
    · rintro ⟨setting, takes, rfl⟩
      exact ⟨_, ⟨setting, takes, rfl⟩, .kept absent⟩
    · rintro ⟨_, ⟨setting, takes, rfl⟩, chosen⟩
      exact ⟨setting, takes, (chosen_iff_of_absent absent).mp chosen⟩
  · have absent : [(key, value)].lookup name = none := lookup_cons_of_ne same
    have skipped : Chosen ((key, value) :: rest) (name, old) result ↔
        Chosen rest (name, old) result := by
      have passed : ((key, value) :: rest).lookup name = rest.lookup name :=
        lookup_cons_of_ne same
      cases found : rest.lookup name with
      | none => rw [chosen_iff_of_absent found, chosen_iff_of_absent (passed.trans found)]
      | some _ => rw [chosen_iff_of_present found, chosen_iff_of_present (passed.trans found)]
    rw [skipped]
    constructor
    · exact fun chosen => ⟨_, .kept absent, chosen⟩
    · rintro ⟨middle, kept, chosen⟩
      rwa [(chosen_iff_of_absent absent).mp kept] at chosen

theorem forall₂_chosen_cons_iff (fresh : key ∉ rest.map Prod.fst) :
    List.Forall₂ (Chosen ((key, value) :: rest)) defaults settings ↔
      ∃ middles, List.Forall₂ (Chosen [(key, value)]) defaults middles ∧
        List.Forall₂ (Chosen rest) middles settings := by
  have split : Chosen ((key, value) :: rest) = fun option result =>
      ∃ middle, Chosen [(key, value)] option middle ∧ Chosen rest middle result := by
    funext option result
    exact propext (chosen_cons_iff fresh)
  rw [split, forall₂_comp_iff]

theorem resolves_cons_iff (fresh : key ∉ rest.map Prod.fst) :
    Resolves ((key, value) :: rest) defaults settings ↔
      ∃ middles, Resolves [(key, value)] defaults middles ∧ Resolves rest middles settings := by
  constructor
  · rintro ⟨known, chosen⟩
    obtain ⟨middles, first, others⟩ := (forall₂_chosen_cons_iff fresh).mp chosen
    obtain ⟨knownFirst, knownRest⟩ := List.forall_mem_cons.mp known
    rw [← names_of_chosen first] at knownRest
    exact ⟨middles, ⟨List.forall_mem_singleton.mpr knownFirst, first⟩, knownRest, others⟩
  · rintro ⟨middles, ⟨knownFirst, first⟩, knownRest, others⟩
    rw [names_of_chosen first] at knownRest
    exact ⟨List.forall_mem_cons.mpr ⟨knownFirst _ List.mem_cons_self, knownRest⟩,
      (forall₂_chosen_cons_iff fresh).mpr ⟨middles, first, others⟩⟩

end

end Setting

namespace RecordField

variable {Record : Type}

/-! ### One field -/

/-- Values of one type of option are read like this, and shown as settings like that. -/
def Reads {α : Type} (read : Value → Except Mismatch α) (shown : α → Setting) : Prop :=
  ∀ {value : Value}, value.IsOrderly → ∀ old setting,
    Setting.Takes (shown old) value setting ↔
      ∃ content, read value = .ok content ∧ shown content = setting

theorem reads_boolean : Reads Value.readBoolean .flag := by
  intro value orderly old setting
  constructor
  · rintro ⟨⟩
    exact ⟨_, rfl, rfl⟩
  · rintro ⟨truth, read, rfl⟩
    cases value with
    | boolean truth' =>
      obtain rfl := Except.ok.inj read
      exact .flag old truth'
    | _ => cases read

theorem readString_iff {value : Value} {text : String} :
    value.readString = .ok text ↔ value = .string text := by
  cases value <;> simp [Value.readString]

theorem mapM_readString_iff {items : List Value} {texts : List String} :
    items.mapM Value.readString = .ok texts ↔ items = texts.map .string := by
  induction items generalizing texts with
  | nil =>
    rw [List.nil_eq, List.map_eq_nil_iff]
    exact ⟨fun read => (Except.ok.inj read).symm, fun empty => congrArg Except.ok empty.symm⟩
  | cons item rest inductionHypothesis =>
    simp only [List.mapM_cons, bind_eq_ok_iff, readString_iff, inductionHypothesis]
    constructor
    · rintro ⟨text, rfl, texts', rfl, joined⟩
      rw [← Except.ok.inj joined, List.map_cons]
    · intro split
      obtain ⟨text, texts', rfl, rfl, rfl⟩ := List.map_eq_cons_iff.mp split.symm
      exact ⟨text, rfl, texts', rfl, rfl⟩

theorem reads_strings : Reads Value.readStrings .texts := by
  intro value orderly old setting
  constructor
  · rintro (- | ⟨-, texts⟩)
    exact ⟨texts, mapM_readString_iff.mpr rfl, rfl⟩
  · rintro ⟨texts, read, rfl⟩
    cases value with
    | array items =>
      obtain rfl := mapM_readString_iff.mp read
      exact .texts old texts
    | _ => cases read

theorem reads_count : Reads Value.readCount .count := by
  intro value orderly old setting
  constructor
  · rintro (- | - | ⟨-, bound⟩)
    rename_i number
    refine ⟨number, ?_, rfl⟩
    rw [Value.readCount, if_neg (Int.not_lt.mpr (Int.natCast_nonneg number)), Int.toNat_natCast]
  · rintro ⟨number, read, rfl⟩
    cases value with
    | integer written =>
      rw [Value.readCount] at read
      split at read
      · cases read
      · rename_i notNegative
        obtain ⟨count, rfl⟩ := Int.eq_ofNat_of_zero_le (Int.not_lt.mp notNegative)
        obtain rfl := Except.ok.inj read
        exact .count old (Int.ofNat_lt.mp orderly.2)
    | _ => cases read

/-- A field, in a record that is seen as a list of settings, sets the option of its name alone,
or refuses what does not fit. -/
def Handles (settings : Record → List (String × Setting)) (field : RecordField Value Record) :
    Prop :=
  ∀ {value : Value}, value.IsOrderly → ∀ record results,
    List.Forall₂ (Setting.Chosen [(field.name, value)]) (settings record) results ↔
      ∃ result, field.set value record = .ok result ∧ settings result = results

/-- A field that reads and stores one of the settings. -/
theorem handles_of {α : Type} {settings : Record → List (String × Setting)} {name : String}
    {read : Value → Except Mismatch α} {shown : α → Setting} {store : α → Record → Record}
    (reads : Reads read shown) (distinct : ∀ record, ((settings record).map Prod.fst).Nodup)
    (index : Nat) (content : Record → α)
    (located : ∀ record, (settings record)[index]? = some (name, shown (content record)))
    (stored : ∀ value record,
      settings (store value record) = (settings record).set index (name, shown value)) :
    Handles settings (RecordField.of name read store) := by
  intro value orderly record results
  refine (Setting.forall₂_chosen_singleton_iff (distinct record) (located record)).trans ?_
  simp only [reads orderly, RecordField.of, map_eq_ok_iff]
  constructor
  · rintro ⟨_, ⟨value, done, rfl⟩, rfl⟩
    exact ⟨_, ⟨value, done, rfl⟩, stored value record⟩
  · rintro ⟨_, ⟨value, done, rfl⟩, rfl⟩
    exact ⟨_, ⟨value, done, rfl⟩, stored value record⟩

/-! ### A record of options -/

/-- Fields make up the settings of a record: there is one for each of them, in their order. -/
structure Covers (fields : List (RecordField Value Record))
    (settings : Record → List (String × Setting)) : Prop where
  names : ∀ record, (settings record).map Prod.fst = fields.map (·.name)
  distinct : (fields.map (·.name)).Nodup
  handled : ∀ field ∈ fields, Handles settings field

/-- Fields that read the settings each at its place cover them. -/
theorem covers_of {fields : List (RecordField Value Record)}
    {settings : Record → List (String × Setting)}
    (names : ∀ record, (settings record).map Prod.fst = fields.map (·.name))
    (distinct : (fields.map (·.name)).Nodup)
    (handled : (∀ record, ((settings record).map Prod.fst).Nodup) →
      ∀ field ∈ fields, Handles settings field) : Covers fields settings :=
  ⟨names, distinct, handled fun record => names record ▸ distinct⟩

section

variable {fields : List (RecordField Value Record)} {settings : Record → List (String × Setting)}
  {record : Record} {results : List (String × Setting)}

theorem Covers.find?_name (covers : Covers fields settings) {field : RecordField Value Record}
    (inside : field ∈ fields) : fields.find? (·.name = field.name) = some field := by
  cases found : fields.find? (·.name = field.name) with
  | none => exact absurd (decide_eq_true rfl) (List.find?_eq_none.mp found field inside)
  | some other =>
    have same : other.name = field.name := by simpa using List.find?_some found
    rw [List.inj_on_of_nodup_map covers.distinct (List.mem_of_find?_eq_some found) inside same]

/-- A value for a field is set before the others are read. -/
theorem Covers.readEntries_cons (covers : Covers fields settings)
    {field : RecordField Value Record} (inside : field ∈ fields) (value : Value)
    (rest : List (String × Value)) :
    readEntries fields ((field.name, value) :: rest) record =
      field.set value record >>= readEntries fields rest := by
  rw [readEntries, covers.find?_name inside]

/-- Reading named values one after the other gives the options what they say. -/
theorem Covers.readEntries_iff (covers : Covers fields settings) {entries : List (String × Value)}
    (distinct : (entries.map Prod.fst).Nodup) (orderly : ∀ entry ∈ entries, entry.2.IsOrderly) :
    Setting.Resolves entries (settings record) results ↔
      ∃ result, readEntries fields entries record = .ok result ∧ settings result = results := by
  induction entries generalizing record with
  | nil =>
    rw [Setting.resolves_nil_iff]
    constructor
    · rintro rfl
      exact ⟨record, rfl, rfl⟩
    · rintro ⟨result, read, rfl⟩
      rw [Except.ok.inj read]
  | cons entry rest inductionHypothesis =>
    obtain ⟨key, value⟩ := entry
    obtain ⟨fresh, distinctRest⟩ := List.nodup_cons.mp distinct
    obtain ⟨first, others⟩ := List.forall_mem_cons.mp orderly
    by_cases named : key ∈ fields.map (·.name)
    · obtain ⟨field, inside, rfl⟩ := List.mem_map.mp named
      rw [← covers.names record] at named
      rw [Setting.resolves_cons_iff fresh, covers.readEntries_cons inside]
      simp only [bind_eq_ok_iff]
      constructor
      · rintro ⟨middles, ⟨known, chosen⟩, resolved⟩
        obtain ⟨next, set, rfl⟩ := (covers.handled field inside first record middles).mp chosen
        obtain ⟨result, read, shown⟩ := (inductionHypothesis distinctRest others).mp resolved
        exact ⟨result, ⟨next, set, read⟩, shown⟩
      · rintro ⟨result, ⟨next, set, read⟩, shown⟩
        have chosen := (covers.handled field inside first record _).mpr ⟨next, set, rfl⟩
        exact ⟨settings next, ⟨List.forall_mem_singleton.mpr named, chosen⟩,
          (inductionHypothesis distinctRest others).mpr ⟨result, read, shown⟩⟩
    · constructor
      · rintro ⟨known, -⟩
        rw [covers.names] at known
        exact absurd (known key List.mem_cons_self) named
      · rintro ⟨result, read, -⟩
        have missing : fields.find? (·.name = key) = none := by
          refine List.find?_eq_none.mpr fun field inside same => named ?_
          exact List.mem_map.mpr ⟨field, inside, of_decide_eq_true same⟩
        rw [readEntries, missing] at read
        cases read

/-- Values in the order of the fields are read like values with the names of the fields. -/
theorem Covers.readItems_eq (covers : Covers fields settings)
    {rest : List (RecordField Value Record)} (inside : ∀ field ∈ rest, field ∈ fields)
    (items : List Value) :
    readItems rest items record =
      readEntries fields ((rest.map (·.name)).zip items) record := by
  induction rest generalizing items record with
  | nil => rfl
  | cons field rest inductionHypothesis =>
    cases items with
    | nil => rfl
    | cons item items =>
      obtain ⟨first, others⟩ := List.forall_mem_cons.mp inside
      rw [readItems, List.map_cons, List.zip_cons_cons, covers.readEntries_cons first]
      exact bind_congr fun next => inductionHypothesis others items

end

end RecordField

/-! ### What a value gives -/

theorem map_fst_zip_sublist {α β : Type} (names : List α) (items : List β) :
    ((names.zip items).map Prod.fst).Sublist names := by
  induction names generalizing items with
  | nil => exact .slnil
  | cons name names inductionHypothesis =>
    cases items with
    | nil => exact List.nil_sublist _
    | cons item items => exact (inductionHypothesis items).cons_cons name

namespace Setting

variable {names : List String} {value : Value} {given : List (String × Value)}

/-- Nothing is given twice, and a number that is given has sixty-four bits. -/
theorem Gives.distinct (gives : Gives names (some value) given) (distinct : names.Nodup)
    (wellFormed : value.IsWellFormed) : (given.map Prod.fst).Nodup := by
  cases gives with
  | null => exact List.nodup_nil
  | byName =>
    have sorted : given.Pairwise (·.1 < ·.1) := wellFormed.isOrderly
    exact List.pairwise_map.mpr (sorted.imp ne_of_lt)
  | inOrder short => exact distinct.sublist (map_fst_zip_sublist names _)

theorem Gives.orderly (gives : Gives names (some value) given)
    (wellFormed : value.IsWellFormed) : ∀ entry ∈ given, entry.2.IsOrderly := by
  cases gives with
  | null => exact nofun
  | byName entries => exact fun entry inside => (wellFormed.of_mem_entries inside).isOrderly
  | inOrder short =>
    exact fun entry inside => (wellFormed.of_mem_items (List.of_mem_zip inside).2).isOrderly

end Setting

/-- A value other than null is read into a record exactly if it is accepted, and the record then
has the settings. -/
theorem RecordField.Covers.readRecord_iff {Record : Type}
    {fields : List (RecordField Value Record)} {settings : Record → List (String × Setting)}
    (covers : Covers fields settings) (typeName : String) {record : Record}
    {results : List (String × Setting)} {value : JsonValue} (notNull : value.value ≠ .null) :
    Setting.Accepts (settings record) (some value) results ↔
      ∃ result, Value.readRecord typeName fields record value.value = .ok result ∧
        settings result = results := by
  obtain ⟨value, wellFormed⟩ := value
  rw [Setting.Accepts, covers.names, Option.map_some]
  have stated : ∀ {given}, Setting.Gives (fields.map (·.name)) (some value) given →
      (Setting.Resolves given (settings record) results ↔
        ∃ result, readEntries fields given record = .ok result ∧ settings result = results) := by
    intro given gives
    exact covers.readEntries_iff (gives.distinct covers.distinct wellFormed)
      (gives.orderly wellFormed)
  cases value with
  | object entries =>
    rw [Value.readRecord, Value.layout, Layout.read, ← stated (.byName entries)]
    constructor
    · rintro ⟨given, ⟨⟩, resolved⟩
      exact resolved
    · exact fun resolved => ⟨entries, .byName entries, resolved⟩
  | array items =>
    rw [Value.readRecord, Value.layout, Layout.read, covers.readItems_eq fun _ inside => inside]
    simp only [bind_eq_ok_iff]
    constructor
    · rintro ⟨given, ⟨⟩, resolved⟩
      rename_i short
      obtain ⟨result, read, shown⟩ := (stated (.inOrder short)).mp resolved
      rw [List.length_map] at short
      exact ⟨result, ⟨result, read, if_neg (Nat.not_lt.mpr short)⟩, shown⟩
    · rintro ⟨result, ⟨result', read, checked⟩, shown⟩
      split at checked
      · cases checked
      · rename_i short
        obtain rfl := Except.ok.inj checked
        have gives : Setting.Gives (fields.map (·.name)) (some (.array items)) _ :=
          .inOrder (by rw [List.length_map]; exact Nat.not_lt.mp short)
        exact ⟨_, gives, (stated gives).mpr ⟨_, read, shown⟩⟩
  | null => exact absurd rfl notNull
  | _ =>
    constructor
    · rintro ⟨given, ⟨⟩, -⟩
    · rintro ⟨result, ⟨⟩, -⟩

end ErrorLint
