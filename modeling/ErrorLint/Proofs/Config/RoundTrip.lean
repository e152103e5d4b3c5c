/-
This file reads back the configurations that are written. A library that keeps to TOML may give
the entries of a table in any order; so every table is read in each order that it can have. The
root table and the entry of a rule have two fields at most, of which each is read on its own,
and the rules are put into a map one after the other. So no fault is met on the way, and every
field gets what it had.
-/

import ErrorLint.Proofs.Config.Options

namespace ErrorLint

variable {library : TomlLibrary}

/-! ### Entries of rules -/

namespace RuleEntry

/-- A severity is read by its name. -/
theorem readEntries_severity (severity : Severity) (rest : List (String × TomlValue))
    (entry : RuleEntry) :
    RecordField.readEntries tomlFields (("severity", .string severity.name) :: rest) entry =
      RecordField.readEntries tomlFields rest { entry with severity := severity } := by
  cases severity <;> rfl

/-- Options are kept as a value. -/
theorem readEntries_options (options : TomlValue) (rest : List (String × TomlValue))
    (entry : RuleEntry) :
    RecordField.readEntries tomlFields (("options", options) :: rest) entry =
      RecordField.readEntries tomlFields rest { entry with options := some options.toJsonValue } :=
  rfl

/-- The entry is read off its TOML value, whatever the order of the fields. -/
theorem read_of_ofValue? {entry : RuleEntry}
    (floatFree : ∀ options ∈ entry.options, options.value.isFloatFree = true) {toml : TomlValue}
    (written : TomlValue.ofValue? entry.toValue = some toml) :
    toml.Regular ∧ ∀ left : TomlValue, left.Alike toml → ofTomlValue left = .ok entry := by
  obtain ⟨severity, options⟩ := entry
  cases options with
  | none =>
    obtain rfl := Option.some.inj written
    refine ⟨.table (by simp) (by simp [TomlValue.Regular.string]), fun left alike => ?_⟩
    obtain ⟨text, ⟨⟩, rfl⟩ := alike.exists_single
    exact readEntries_severity severity [] defaults
  | some options =>
    obtain ⟨value, inner, rfl⟩ : ∃ value, TomlValue.ofValue? options.value = some value ∧
        .table [("severity", .string severity.name), ("options", value)] = toml := by
      cases inner : TomlValue.ofValue? options.value <;>
        simp_all [toValue, TomlValue.ofValue?, TomlValue.ofEntries?]
    have admits : TomlValue.Admits options.value.parts := fun part inside =>
      ⟨options.wellFormed part inside,
        by simpa using List.all_eq_true.1 (floatFree _ rfl) part inside⟩
    obtain ⟨regular, same⟩ := TomlValue.regular_of_ofValue? _ admits inner
    refine ⟨.table (by simp) (by simp [TomlValue.Regular.string, regular]), fun left alike => ?_⟩
    obtain ⟨text, other, ⟨⟩, alikeOptions, order⟩ := alike.exists_pair
    have kept : other.toJsonValue = options :=
      JsonValue.ext ((alikeOptions.toValue_eq regular).trans same)
    obtain rfl | rfl := order
    · show RecordField.readEntries tomlFields
        [("severity", .string severity.name), ("options", other)] defaults = _
      rw [readEntries_severity, readEntries_options, kept]
      rfl
    · show RecordField.readEntries tomlFields
        [("options", other), ("severity", .string severity.name)] defaults = _
      rw [readEntries_options, readEntries_severity, kept]
      rfl

end RuleEntry

namespace Config

/-! ### Rules -/

/-- From this TOML value, and from all that are alike to it, a rule is read. -/
def Yields (toml : String × TomlValue) (rule : String × RuleEntry) : Prop :=
  toml.1 = rule.1 ∧ ∀ left : TomlValue, left.Alike toml.2 → RuleEntry.ofTomlValue left = .ok rule.2

/-- Rules are read one after the other and sorted by their ids. -/
theorem exists_rulesOfToml {lefts middle : List (String × TomlValue)}
    {rules : List (String × RuleEntry)} (alike : List.Forall₂ TomlValue.AlikeEntries lefts middle)
    (yields : List.Forall₂ Yields middle rules) :
    ∃ map, rulesOfToml lefts = .ok map ∧ map.entries = SortedMap.sortEntries rules := by
  induction alike generalizing rules with
  | nil =>
    obtain rfl := List.forall₂_nil_left_iff.1 yields
    exact ⟨.empty, rfl, rfl⟩
  | @cons left toml lefts middle entry alike inductionHypothesis =>
    obtain ⟨rule, rules, ⟨sameId, reads⟩, others, rfl⟩ := List.forall₂_cons_left_iff.1 yields
    obtain ⟨map, read, entries⟩ := inductionHypothesis others
    refine ⟨map.insert rule.1 rule.2, ?_, congrArg _ entries⟩
    rw [rulesOfToml, reads left.2 entry.2, read, ← sameId, ← entry.1]
    rfl

/-- The table of the rules is read as the rules, whatever its order. -/
theorem rulesOfToml_of_perm {lefts middle tomls : List (String × TomlValue)}
    {rules : SortedMap RuleEntry} (alike : List.Forall₂ TomlValue.AlikeEntries lefts middle)
    (perm : middle.Perm tomls) (yields : List.Forall₂ Yields tomls rules.entries) :
    rulesOfToml lefts = .ok rules := by
  obtain ⟨reordered, yields, perm⟩ := List.perm_comp_forall₂ perm yields
  obtain ⟨map, read, entries⟩ := exists_rulesOfToml alike yields
  have same : map = rules := SortedMap.ext <| calc
    map.entries = SortedMap.sortEntries reordered := entries
    _ = SortedMap.sortEntries rules.entries := SortedMap.sortEntries_congr rules.nodup_keys perm
    _ = rules.entries := SortedMap.sortEntries_of_pairwise rules.sorted
  rw [read, same]

/-! ### Configurations -/

theorem readEntries_extends (preset : Preset) (rest : List (String × TomlValue))
    (config : Config) :
    RecordField.readEntries tomlFields (("extends", .string preset.name) :: rest) config =
      RecordField.readEntries tomlFields rest { config with preset := some preset } := by
  cases preset <;> rfl

theorem readEntries_rules {tomls : List (String × TomlValue)} {rules : SortedMap RuleEntry}
    (read : rulesOfToml tomls = .ok rules) (rest : List (String × TomlValue)) (config : Config) :
    RecordField.readEntries tomlFields (("rules", .table tomls) :: rest) config =
      RecordField.readEntries tomlFields rest { config with rules := rules } := by
  show ((rulesOfToml tomls).map _ >>= _) = _
  rw [read]
  rfl

/-- The options of all rules that have some. -/
def allOptions (config : Config) : List JsonValue := config.rules.entries.filterMap (·.2.options)

/-- Whether there is no floating-point number in the options. -/
def isFloatFree (config : Config) : Bool := config.allOptions.all (·.value.isFloatFree)

theorem mem_allOptions {config : Config} {options : JsonValue} :
    options ∈ config.allOptions ↔ ∃ rule ∈ config.rules.entries, rule.2.options = some options :=
  List.mem_filterMap

/-- The TOML values of the rules are regular, and each of them yields its rule. -/
theorem yields_of_ofEntries? {rules : List (String × RuleEntry)}
    (floatFree : ∀ rule ∈ rules, ∀ options ∈ rule.2.options, options.value.isFloatFree = true)
    {tomls : List (String × TomlValue)}
    (written : TomlValue.ofEntries? (rules.map fun rule => (rule.1, rule.2.toValue)) = some tomls) :
    (∀ toml ∈ tomls, toml.2.Regular) ∧ List.Forall₂ Yields tomls rules := by
  have pairs := List.forall₂_map_left_iff.1 (TomlValue.forall₂_of_ofEntries? written)
  clear written
  induction pairs with
  | nil => exact ⟨fun _ member => absurd member List.not_mem_nil, .nil⟩
  | @cons rule toml rules tomls pair pairs inductionHypothesis =>
    obtain ⟨first, others⟩ := List.forall_mem_cons.1 floatFree
    obtain ⟨regular, reads⟩ := RuleEntry.read_of_ofValue? first pair.2
    obtain ⟨regularRest, yields⟩ := inductionHypothesis others
    exact ⟨List.forall_mem_cons.2 ⟨regular, regularRest⟩, .cons ⟨pair.1.symm, reads⟩ yields⟩

/-- The configuration is read off its table, whatever the order of the entries. -/
theorem read_of_toEntries {config : Config} (floatFree : config.isFloatFree = true)
    {tomls : List (String × TomlValue)}
    (written : TomlValue.ofEntries? config.toEntries = some tomls) :
    (TomlValue.table tomls).Regular ∧
      ∀ found, (TomlValue.table found).Alike (.table tomls) →
        RecordField.readEntries tomlFields found empty = .ok config := by
  have noFloats : ∀ rule ∈ config.rules.entries, ∀ options ∈ rule.2.options,
      options.value.isFloatFree = true := fun rule inside options given =>
    List.all_eq_true.1 floatFree options (mem_allOptions.2 ⟨rule, inside, given⟩)
  obtain ⟨preset, rules⟩ := config
  obtain ⟨ruleTomls, inner, rfl⟩ : ∃ ruleTomls,
      TomlValue.ofEntries? (rules.entries.map fun rule => (rule.1, rule.2.toValue)) =
        some ruleTomls ∧
      (preset.map fun preset => ("extends", TomlValue.string preset.name)).toList ++
        [("rules", .table ruleTomls)] = tomls := by
    cases preset <;>
      simpa [toEntries, TomlValue.ofEntries?, TomlValue.ofValue?, Option.bind_eq_some_iff]
        using written
  obtain ⟨regular, yields⟩ := yields_of_ofEntries? noFloats inner
  have rulesRegular : (TomlValue.table ruleTomls).Regular := by
    have ids : ruleTomls.map Prod.fst = rules.entries.map Prod.fst :=
      TomlValue.map_eq_map_of_forall₂ yields fun toml rule _ yielded => yielded.1
    exact .table (ids ▸ rules.nodup_keys) regular
  have readRules : ∀ left : TomlValue, left.Alike (.table ruleTomls) →
      ∃ lefts, left = .table lefts ∧ rulesOfToml lefts = .ok rules := by
    intro left alike
    obtain ⟨lefts, middle, rfl, alike, perm⟩ := alike.exists_table
    exact ⟨lefts, rfl, rulesOfToml_of_perm alike perm yields⟩
  cases preset with
  | none =>
    refine ⟨.table (by simp) (by simp [rulesRegular]), fun found alike => ?_⟩
    obtain ⟨left, alikeRules, ⟨⟩⟩ := alike.exists_single
    obtain ⟨lefts, rfl, read⟩ := readRules left alikeRules
    exact readEntries_rules read [] empty
  | some preset =>
    refine ⟨.table (by simp) (by simp [rulesRegular, TomlValue.Regular.string]),
      fun found alike => ?_⟩
    obtain ⟨text, left, ⟨⟩, alikeRules, order⟩ := alike.exists_pair
    obtain ⟨lefts, rfl, read⟩ := readRules left alikeRules
    obtain ⟨⟨⟩⟩ | ⟨⟨⟩⟩ := order
    · rw [readEntries_extends, readEntries_rules read]
      rfl
    · rw [readEntries_rules read, readEntries_extends]
      rfl

/-! ### Writing and reading -/

/-- A configuration has no table exactly if something that TOML cannot express stands in its
options. -/
theorem toEntries_eq_none_iff (config : Config) :
    TomlValue.ofEntries? config.toEntries = none ↔
      ∃ options ∈ config.allOptions, ∃ part ∈ options.value.parts, part.IsInexpressible := by
  have ofRule : ∀ entry : RuleEntry, TomlValue.ofValue? entry.toValue = none ↔
      ∃ options, entry.options = some options ∧
        ∃ part ∈ options.value.parts, part.IsInexpressible := by
    rintro ⟨severity, options⟩
    cases options with
    | none => exact ⟨nofun, nofun⟩
    | some options =>
      have inOptions := TomlValue.ofValue?_eq_none_iff options.value options.wellFormed
      simp [RuleEntry.toValue, TomlValue.ofValue?, TomlValue.ofEntries?_eq_none_iff_exists,
        inOptions]
  have rules : TomlValue.ofEntries? config.toEntries = none ↔
      ∃ rule ∈ config.rules.entries, TomlValue.ofValue? rule.2.toValue = none := by
    cases preset : config.preset <;>
      simp [toEntries, preset, TomlValue.ofValue?, TomlValue.ofEntries?_eq_none_iff_exists]
  rw [rules]
  simp only [ofRule, mem_allOptions]
  constructor
  · rintro ⟨rule, inside, options, given, inexpressible⟩
    exact ⟨options, ⟨rule, inside, given⟩, inexpressible⟩
  · rintro ⟨options, ⟨rule, inside, given⟩, inexpressible⟩
    exact ⟨rule, inside, options, given, inexpressible⟩

/-- Whatever library keeps to TOML: a valid configuration without floating-point numbers that is
written is read back as it was, and a configuration is written unless its options hold something
that TOML cannot express. -/
theorem ofToml_toToml (toml : library.IsToml) (config : Config) :
    (config.validate = .ok () → config.isFloatFree = true → ∀ text,
      config.toToml library = .ok text → ofToml library text = .ok config) ∧
    ((∃ fault, config.toToml library = .error fault) ↔
      ∃ options ∈ config.allOptions, ∃ part ∈ options.value.parts, part.IsInexpressible) := by
  rw [← toEntries_eq_none_iff]
  cases expressed : TomlValue.ofEntries? config.toEntries with
  | none =>
    obtain ⟨message, refused⟩ := toml.refuses expressed
    have failed : config.toToml library = .error (.malformed "<serialization>" message) := by
      rw [toToml, refused]
      rfl
    rw [failed]
    exact ⟨nofun, iff_of_true ⟨_, rfl⟩ rfl⟩
  | some tomls =>
    obtain ⟨text, written, means⟩ := toml.writes expressed
    have done : config.toToml library = .ok text := by
      rw [toToml, written]
      rfl
    rw [done]
    refine ⟨?_, iff_of_false nofun nofun⟩
    rintro valid floatFree _ ⟨⟩
    obtain ⟨regular, reads⟩ := read_of_toEntries floatFree expressed
    obtain ⟨found, read, alike⟩ := toml.reads (means regular)
    rw [ofToml, parse, read]
    dsimp only
    rw [reads found alike]
    show (validate config >>= fun _ => pure config) = _
    rw [valid]
    rfl

/-- A configuration with a rule whose id is quoted, and with options of several kinds. -/
def sample : Config where
  preset := some .strict
  rules := ⟨[
    ("a.b", ⟨.warn, none⟩),
    ("no-literal-error-message", ⟨.error, some ⟨.object [
      ("empty", .object []),
      ("list", .array [.integer (-1), .string "it's \"\\\n"]),
      ("tables", .array [.object [("x", .boolean true)]])], by decide⟩⟩)], by decide⟩

theorem ofToml_toToml_sample :
    (Toml.library none).IsToml ∧ sample.validate = .ok () ∧ sample.isFloatFree = true ∧
      ∃ text, sample.toToml (Toml.library none) = .ok text ∧
        ofToml (Toml.library none) text = .ok sample := by
  have valid : sample.validate = .ok () := by rfl
  have floatFree : sample.isFloatFree = true := by rfl
  refine ⟨Toml.isToml_library, valid, floatFree, _, rfl, ?_⟩
  exact (ofToml_toToml Toml.isToml_library sample).1 valid floatFree _ rfl

end Config

end ErrorLint
