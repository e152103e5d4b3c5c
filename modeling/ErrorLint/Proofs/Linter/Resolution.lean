/-
This file says which linter a configuration gives. The preset comes first, and where there is an
entry for one of its rules, the entry takes the place of the whole selection; the other entries
follow in the order of their ids. What is off is left out, and what remains is activated.

There are three ways to fail, and each of them looks at all entries before the next one does: an
entry of a wrong shape, an entry for a rule that does not exist, and a rule that refuses its
options. The entries are sorted by their ids, so the first entry with a fault is the one with
the least id.
-/

import ErrorLint.Linter.Selection
import ErrorLint.Pattern.Matching
import ErrorLint.Proofs.Linter.Attribution
import ErrorLint.Proofs.Rule.Activation
import ErrorLint.Proofs.Rule.Declaration

namespace ErrorLint

/-- Changes all values of a map. -/
def SortedMap.mapValues {α β : Type} (change : α → β) (map : SortedMap α) : SortedMap β :=
  ⟨map.entries.map fun (key, value) => (key, change value), List.pairwise_map.mpr map.sorted⟩

/-! ### What is meant -/

/-- What is wrong with the shape of an entry: its id is blank, or its options are no table. -/
inductive RuleEntry.Malformed : String × RuleEntry → ConfigError → Prop
  | blank {id : String} {entry : RuleEntry} (blank : Text.trim id.toList = []) :
    Malformed (id, entry) (.invalid "rules" "rule id must not be empty")
  | noTable {id : String} {entry : RuleEntry} {options : JsonValue}
    (present : Text.trim id.toList ≠ []) (given : entry.options = some options)
    (noObject : options.value.isObject = false) :
    Malformed (id, entry) (.invalid ("rules." ++ id ++ ".options") "must be a table")

/-- No entry has a wrong shape. -/
def Config.IsWellShaped (config : Config) : Prop :=
  ∀ entry ∈ config.rules.entries, ∀ fault, ¬RuleEntry.Malformed entry fault

/-- All entries are for rules that exist. -/
def Config.IsKnown (config : Config) : Prop :=
  ∀ entry ∈ config.rules.entries, entry.1 ∈ RuleId.all.map RuleId.name

namespace Selection

/-- What the preset selects, if there is one. -/
def preselected (config : Config) : List Selection := (config.preset.map ofPreset).getD []

/-- What an entry selects. -/
def ofEntry (entry : String × RuleEntry) : Selection := ⟨entry.1, entry.2.severity, entry.2.options⟩

/-- A selection, or what the entry for its id selects instead. -/
def replaced (rules : List (String × RuleEntry)) (selection : Selection) : Selection :=
  match rules.lookup selection.id with
  | some entry => ofEntry (selection.id, entry)
  | none => selection

/-- The rules of the preset in their order, each with its severity and options replaced together
if there is an entry for it, and then what the other entries select. -/
def resolved (config : Config) : List Selection :=
  (preselected config).map (replaced config.rules.entries) ++
    (config.rules.entries.filter fun entry => entry.1 ∉ (preselected config).map (·.id)).map ofEntry

/-- Whether a selected rule runs at all. -/
def isEnabled (selection : Selection) : Bool := selection.severity.isEnabled

/-- What is selected and not off. -/
def enabled (config : Config) : List Selection :=
  (resolved config).filter isEnabled

/-- The rule of a selection, with its options, runs at its severity. -/
def Activates (engine : PatternEngine) (selection : Selection) (activation : Activation Rule) :
    Prop :=
  Rule.create engine selection.id selection.options = .ok activation.rule ∧
    activation.severity = selection.severity

end Selection

/-- The entry without the options of a rule that is off. -/
def RuleEntry.erased (entry : RuleEntry) : RuleEntry :=
  if entry.severity.isEnabled then entry else { entry with options := none }

/-- The configuration without the options of rules that are off. -/
def Config.erased (config : Config) : Config :=
  { config with rules := config.rules.mapValues RuleEntry.erased }

/-- What comes of a configuration, given an engine for the patterns in its options. -/
inductive Config.Resolution (engine : PatternEngine) (config : Config) :
    Except ConfigError (Linter Rule) → Prop
  /-- Of the entries with a wrong shape, the one with the least id tells the fault. -/
  | malformed {entry : String × RuleEntry} {fault : ConfigError}
    (inside : entry ∈ config.rules.entries)
    (malformed : RuleEntry.Malformed entry fault)
    (least : ∀ other ∈ config.rules.entries, other.1 < entry.1 →
      ∀ fault, ¬RuleEntry.Malformed other fault) :
    Resolution engine config (.error fault)
  /-- Of the entries for rules that do not exist, the one with the least id is told. -/
  | unknown {entry : String × RuleEntry} (wellShaped : config.IsWellShaped)
    (inside : entry ∈ config.rules.entries) (unknown : entry.1 ∉ RuleId.all.map RuleId.name)
    (least : ∀ other ∈ config.rules.entries, other.1 < entry.1 →
      other.1 ∈ RuleId.all.map RuleId.name) :
    Resolution engine config (.error (.unknownRule entry.1))
  /-- The first rule that is not off and refuses its options tells the fault. -/
  | refused {before after : List Selection} {selection : Selection} {fault : ConfigError}
    (wellShaped : config.IsWellShaped) (known : config.IsKnown)
    (split : Selection.enabled config = before ++ selection :: after)
    (accepted : ∀ other ∈ before, ∃ rule, Rule.create engine other.id other.options = .ok rule)
    (refused : Rule.create engine selection.id selection.options = .error fault) :
    Resolution engine config (.error fault)
  /-- All rules that are not off are active, in their order. -/
  | active {linter : Linter Rule} (wellShaped : config.IsWellShaped) (known : config.IsKnown)
    (activated : List.Forall₂ (Selection.Activates engine) (Selection.enabled config)
      linter.activations)
    (registered : linter = Linter.register linter.activations) :
    Resolution engine config (.ok linter)

/-! ### The entries, one after the other -/

/-- The first member of a sorted list of entries for which there is a result is the one with the
least id. -/
theorem findSome?_eq_some_iff_least {α β : Type} {check : String × α → Option β}
    {entries : List (String × α)} (sorted : entries.Pairwise (·.1 < ·.1)) {result : β} :
    entries.findSome? check = some result ↔
      ∃ entry ∈ entries, check entry = some result ∧
        ∀ other ∈ entries, other.1 < entry.1 → check other = none := by
  rw [List.findSome?_eq_some_iff]
  constructor
  · rintro ⟨before, entry, after, rfl, found, none⟩
    refine ⟨entry, List.mem_append_right _ List.mem_cons_self, found, fun other inside less => ?_⟩
    rcases List.mem_append.mp inside with earlier | later
    · exact none other earlier
    · exfalso
      obtain rfl | later := List.mem_cons.mp later
      · exact lt_irrefl _ less
      · have follows := (List.pairwise_cons.mp (List.pairwise_append.mp sorted).2.1).1 other later
        exact lt_asymm less follows
  · rintro ⟨entry, inside, found, least⟩
    obtain ⟨before, after, rfl⟩ := List.append_of_mem inside
    refine ⟨before, entry, after, rfl, found, fun other earlier => ?_⟩
    refine least other (List.mem_append_left _ earlier) ?_
    exact (List.pairwise_append.mp sorted).2.2 other earlier entry List.mem_cons_self

theorem malformed_iff {entry : String × RuleEntry} {fault : ConfigError} :
    RuleEntry.Malformed entry fault ↔ Config.entryFault? entry.1 entry.2 = some fault := by
  obtain ⟨id, severity, options⟩ := entry
  rw [Config.entryFault?]
  constructor
  · rintro (blank | ⟨present, given, noObject⟩)
    · rw [if_pos blank]
    · obtain rfl : options = some _ := given
      rw [if_neg present, if_pos (by simpa using noObject)]
  · intro found
    split at found
    · rename_i blank
      obtain rfl := Option.some.inj found
      exact .blank blank
    · rename_i present
      split at found
      · rename_i noTable
        cases options with
        | none => cases noTable
        | some value =>
          obtain rfl := Option.some.inj found
          exact .noTable present rfl (by simpa using noTable)
      · cases found

/-- An entry for a rule that does not exist. -/
def unknownFault? (entry : String × RuleEntry) : Option ConfigError :=
  if entry.1 ∈ RuleId.all.map RuleId.name then none else some (.unknownRule entry.1)

theorem unknownFault?_eq_some_iff {entry : String × RuleEntry} {fault : ConfigError} :
    unknownFault? entry = some fault ↔
      entry.1 ∉ RuleId.all.map RuleId.name ∧ fault = .unknownRule entry.1 := by
  unfold unknownFault?
  split
  · rename_i known
    simp [known]
  · rename_i unknown
    simp [unknown, eq_comm]

namespace Selection

/-- The entries are applied in their order, if each of them is for a rule that exists. -/
theorem applyEntries_eq (entries : List (String × RuleEntry)) (selected : List Selection) :
    applyEntries entries selected =
      match entries.findSome? unknownFault? with
      | some fault => .error fault
      | none => .ok (entries.foldl (fun selected entry => override entry.1 entry.2 selected)
          selected) := by
  induction entries generalizing selected with
  | nil => rfl
  | cons entry rest inductionHypothesis =>
    obtain ⟨id, entry⟩ := entry
    rw [applyEntries, List.findSome?_cons, List.foldl_cons]
    cases found : RuleId.ofName? id with
    | none =>
      have unknown : unknownFault? (id, entry) = some (.unknownRule id) :=
        if_neg (RuleId.ofName?_eq_none_iff.mp found)
      rw [unknown]
    | some rule =>
      have known : unknownFault? (id, entry) = none := by
        refine if_pos (not_not.mp fun unknown => ?_)
        rw [RuleId.ofName?_eq_none_iff.mpr unknown] at found
        cases found
      rw [known]
      exact inductionHypothesis _

section

variable {id : String} {entry : RuleEntry} {rest entries : List (String × RuleEntry)}
  {selection : Selection} {selected : List Selection}

theorem id_replaced : (replaced entries selection).id = selection.id := by
  unfold replaced
  split <;> rfl

theorem ids_replaced : (selected.map (replaced entries)).map (·.id) = selected.map (·.id) := by
  rw [List.map_map]
  exact List.map_congr_left fun selection _ => id_replaced

theorem replaced_of_absent (absent : entries.lookup selection.id = none) :
    replaced entries selection = selection := by
  rw [replaced, absent]

theorem replaced_cons_self (same : selection.id = id) :
    replaced ((id, entry) :: rest) selection = ofEntry (id, entry) := by
  subst same
  rw [replaced, List.lookup_cons_self]

theorem replaced_cons_of_ne (different : selection.id ≠ id) :
    replaced ((id, entry) :: rest) selection = replaced rest selection := by
  rw [replaced, replaced, lookup_cons_of_ne different]

theorem map_replaced_cons_of_notMem (unselected : id ∉ selected.map (·.id)) :
    selected.map (replaced ((id, entry) :: rest)) = selected.map (replaced rest) := by
  refine List.map_congr_left fun selection inside => replaced_cons_of_ne ?_
  rintro rfl
  exact unselected (List.mem_map_of_mem inside)

/-- An entry replaces what is selected for its id, or adds a selection. -/
theorem override_eq (distinct : (selected.map (·.id)).Nodup) :
    override id entry selected =
      if id ∈ selected.map (·.id) then selected.map (replaced [(id, entry)])
      else selected ++ [ofEntry (id, entry)] := by
  induction selected with
  | nil => rfl
  | cons selection rest inductionHypothesis =>
    obtain ⟨fresh, distinct⟩ := List.nodup_cons.mp distinct
    rw [override]
    by_cases same : selection.id = id
    · subst same
      have others : rest.map (replaced [(selection.id, entry)]) = rest := by
        rw [map_replaced_cons_of_notMem fresh]
        exact List.map_id' _
      have selected : selection.id ∈ (selection :: rest).map (·.id) := List.mem_cons_self
      rw [if_pos rfl, if_pos selected, List.map_cons, replaced_cons_self rfl, others]
      rfl
    · rw [if_neg same, inductionHypothesis distinct]
      by_cases inside : id ∈ rest.map (·.id)
      · have selected : id ∈ (selection :: rest).map (·.id) := List.mem_cons_of_mem _ inside
        rw [if_pos inside, if_pos selected, List.map_cons, replaced_cons_of_ne same]
        rfl
      · have outside : id ∉ (selection :: rest).map (·.id) := by
          rw [List.map_cons, List.mem_cons, not_or]
          exact ⟨fun same' => same same'.symm, inside⟩
        rw [if_neg inside, if_neg outside, List.cons_append]

/-- Applying the entries one after the other gives what is meant. -/
theorem foldl_override (distinctEntries : (entries.map Prod.fst).Nodup)
    (distinct : (selected.map (·.id)).Nodup) :
    entries.foldl (fun selected entry => override entry.1 entry.2 selected) selected =
      selected.map (replaced entries) ++
        (entries.filter fun entry => entry.1 ∉ selected.map (·.id)).map ofEntry := by
  induction entries generalizing selected with
  | nil =>
    rw [List.foldl_nil, List.filter_nil, List.map_nil, List.append_nil]
    exact (List.map_id' _).symm
  | cons entry rest inductionHypothesis =>
    obtain ⟨id, entry⟩ := entry
    obtain ⟨fresh, distinctRest⟩ := List.nodup_cons.mp distinctEntries
    have absent : rest.lookup id = none := Toml.lookup_of_fresh fresh
    rw [List.foldl_cons, override_eq distinct]
    split
    · rename_i inside
      have once : ∀ selection,
          replaced rest (replaced [(id, entry)] selection) =
            replaced ((id, entry) :: rest) selection := by
        intro selection
        by_cases same : selection.id = id
        · rw [replaced_cons_self same, replaced_cons_self same]
          exact replaced_of_absent absent
        · rw [replaced_cons_of_ne same, replaced_cons_of_ne same]
          rfl
      rw [inductionHypothesis distinctRest (by rw [ids_replaced]; exact distinct), ids_replaced,
        List.map_map, List.filter_cons_of_neg (by simpa using inside)]
      exact congrArg (· ++ _) (List.map_congr_left fun selection _ => once selection)
    · rename_i outside
      have ids : (selected ++ [ofEntry (id, entry)]).map (·.id) = selected.map (·.id) ++ [id] := by
        rw [List.map_append]
        rfl
      have others : (rest.filter fun entry => entry.1 ∉ selected.map (·.id) ++ [id]) =
          rest.filter fun entry => entry.1 ∉ selected.map (·.id) := by
        refine List.filter_congr fun other inside => ?_
        have different : other.1 ≠ id := by
          rintro rfl
          exact fresh (List.mem_map.mpr ⟨other, inside, rfl⟩)
        simp [different]
      rw [inductionHypothesis distinctRest, ids, others, List.map_append, List.map_singleton,
        map_replaced_cons_of_notMem outside, List.filter_cons_of_pos (by simpa using outside),
        List.map_cons, List.append_assoc]
      · rw [replaced_of_absent absent]
        rfl
      · rw [ids]
        exact (List.perm_append_singleton id _).nodup_iff.mpr
          (List.nodup_cons.mpr ⟨outside, distinct⟩)

end

/-! ### Activating what is selected -/

section

variable {engine : PatternEngine} {selections before after : List Selection}
  {selection : Selection} {activations : List (Activation Rule)} {fault : ConfigError}

theorem names_of_activates (activated : List.Forall₂ (Activates engine) selections activations) :
    activations.map (·.rule.id.name) = selections.map (·.id) := by
  induction activated with
  | nil => rfl
  | cons first _ inductionHypothesis =>
    rw [List.map_cons, List.map_cons, inductionHypothesis, Rule.name_of_create first.1]

theorem isEnabled_of_activates (activated : List.Forall₂ (Activates engine) selections activations)
    (enabled : ∀ selection ∈ selections, selection.isEnabled = true) :
    ∀ activation ∈ activations, activation.isEnabled = true := by
  induction activated with
  | nil => exact nofun
  | cons first _ inductionHypothesis =>
    obtain ⟨here, others⟩ := List.forall_mem_cons.mp enabled
    refine List.forall_mem_cons.mpr ⟨?_, inductionHypothesis others⟩
    rw [Activation.isEnabled, first.2]
    exact here

/-- The rules are activated up to the first one that refuses its options. -/
theorem activates_or_refused (selections : List Selection) :
    (∃ activations, List.Forall₂ (Activates engine) selections activations) ∨
      ∃ before selection after fault, selections = before ++ selection :: after ∧
        (∀ other ∈ before, ∃ rule, Rule.create engine other.id other.options = .ok rule) ∧
        Rule.create engine selection.id selection.options = .error fault := by
  induction selections with
  | nil => exact .inl ⟨[], .nil⟩
  | cons selection rest inductionHypothesis =>
    cases created : Rule.create engine selection.id selection.options with
    | error fault => exact .inr ⟨[], selection, rest, fault, rfl, nofun, created⟩
    | ok rule =>
      obtain ⟨activations, others⟩ | ⟨before, other, after, fault, rfl, accepted, refused⟩ :=
        inductionHypothesis
      · exact .inl ⟨⟨rule, selection.severity⟩ :: activations, .cons ⟨created, rfl⟩ others⟩
      · exact .inr ⟨selection :: before, other, after, fault, rfl,
          List.forall_mem_cons.mpr ⟨⟨rule, created⟩, accepted⟩, refused⟩

theorem addSelected_cons_of_isEnabled (linter : Linter Rule)
    (enabled : selection.isEnabled = true) :
    linter.addSelected engine (selection :: selections) =
      match Rule.create engine selection.id selection.options with
      | .ok rule => (linter.add rule selection.severity).addSelected engine selections
      | .error fault => .error fault := by
  rw [Linter.addSelected]
  exact if_pos enabled

/-- What is off is passed over. -/
theorem addSelected_filter (linter : Linter Rule) (selections : List Selection) :
    linter.addSelected engine (selections.filter isEnabled) =
      linter.addSelected engine selections := by
  induction selections generalizing linter with
  | nil => rfl
  | cons selection rest inductionHypothesis =>
    by_cases enabled : selection.isEnabled = true
    · rw [List.filter_cons_of_pos enabled, addSelected_cons_of_isEnabled linter enabled,
        addSelected_cons_of_isEnabled linter enabled]
      cases Rule.create engine selection.id selection.options with
      | error fault => rfl
      | ok rule => exact inductionHypothesis _
    · rw [List.filter_cons_of_neg enabled, inductionHypothesis, Linter.addSelected]
      exact (if_neg enabled).symm

theorem addSelected_of_activates
    (activated : List.Forall₂ (Activates engine) selections activations)
    (enabled : ∀ selection ∈ selections, selection.isEnabled = true) (linter : Linter Rule) :
    linter.addSelected engine selections = .ok (activations.foldl
      (fun linter entry => linter.add entry.rule entry.severity) linter) := by
  induction activated generalizing linter with
  | nil => rfl
  | cons first _ inductionHypothesis =>
    obtain ⟨here, others⟩ := List.forall_mem_cons.mp enabled
    rw [addSelected_cons_of_isEnabled linter here, first.1, List.foldl_cons, first.2]
    exact inductionHypothesis others _

theorem addSelected_of_refused
    (accepted : ∀ other ∈ before, ∃ rule, Rule.create engine other.id other.options = .ok rule)
    (refused : Rule.create engine selection.id selection.options = .error fault)
    (enabled : ∀ other ∈ before ++ selection :: after, other.isEnabled = true)
    (linter : Linter Rule) :
    linter.addSelected engine (before ++ selection :: after) = .error fault := by
  induction before generalizing linter with
  | nil =>
    rw [List.nil_append, addSelected_cons_of_isEnabled linter (enabled _ List.mem_cons_self),
      refused]
  | cons other before inductionHypothesis =>
    obtain ⟨here, others⟩ := List.forall_mem_cons.mp enabled
    obtain ⟨⟨rule, created⟩, acceptedRest⟩ := List.forall_mem_cons.mp accepted
    rw [List.cons_append, addSelected_cons_of_isEnabled linter here, created]
    exact inductionHypothesis acceptedRest others _

end

/-! ### The whole configuration -/

theorem nodup_ids_ofPreset (preset : Preset) : ((ofPreset preset).map (·.id)).Nodup := by
  cases preset <;> decide

theorem nodup_ids_preselected (config : Config) :
    ((preselected config).map (·.id)).Nodup := by
  rw [preselected]
  cases config.preset with
  | none => exact List.nodup_nil
  | some preset => exact nodup_ids_ofPreset preset

/-- No rule is selected twice. -/
theorem nodup_ids_resolved (config : Config) : ((resolved config).map (·.id)).Nodup := by
  rw [resolved, List.map_append, ids_replaced, List.map_map]
  refine List.nodup_append.mpr ⟨nodup_ids_preselected config, ?_, ?_⟩
  · exact config.rules.nodup_keys.sublist (List.filter_sublist.map _)
  · rintro id selected other listed rfl
    obtain ⟨entry, kept, rfl⟩ := List.mem_map.mp listed
    exact of_decide_eq_true (List.mem_filter.mp kept).2 selected

/-- The selections of a configuration are what is meant. -/
theorem ofConfig_eq (config : Config) :
    Selection.ofConfig config =
      match config.rules.entries.findSome? unknownFault? with
      | some fault => .error fault
      | none => .ok (resolved config) := by
  show applyEntries config.rules.entries (preselected config) = _
  rw [applyEntries_eq, foldl_override config.rules.nodup_keys (nodup_ids_preselected config)]
  rfl

end Selection

namespace Config

open Selection

variable {engine : PatternEngine} {config : Config} {outcome : Except ConfigError (Linter Rule)}

/-- The three steps, one after the other. -/
theorem ofConfig_eq_steps (config : Config) :
    Linter.ofConfig engine config =
      match config.rules.entries.findSome? fun entry => entryFault? entry.1 entry.2 with
      | some fault => .error fault
      | none =>
        match config.rules.entries.findSome? unknownFault? with
        | some fault => .error fault
        | none => Linter.empty.addSelected engine (enabled config) := by
  rw [Linter.ofConfig, validate]
  cases config.rules.entries.findSome? fun entry => entryFault? entry.1 entry.2 with
  | some fault => rfl
  | none =>
    show (Selection.ofConfig config >>= fun selections =>
      Linter.empty.addSelected engine selections) = _
    rw [Selection.ofConfig_eq config]
    cases config.rules.entries.findSome? unknownFault? with
    | some fault => rfl
    | none => exact (addSelected_filter _ _).symm

theorem isWellShaped_iff :
    config.IsWellShaped ↔
      config.rules.entries.findSome? (fun entry => entryFault? entry.1 entry.2) = none := by
  rw [List.findSome?_eq_none_iff]
  refine forall₂_congr fun entry _ => ?_
  rw [Option.eq_none_iff_forall_ne_some]
  exact forall_congr' fun fault => not_congr malformed_iff

theorem unknownFault?_eq_none_iff {entry : String × RuleEntry} :
    unknownFault? entry = none ↔ entry.1 ∈ RuleId.all.map RuleId.name := by
  unfold unknownFault?
  split <;> simp_all

theorem isKnown_iff : config.IsKnown ↔ config.rules.entries.findSome? unknownFault? = none := by
  rw [List.findSome?_eq_none_iff]
  exact forall₂_congr fun entry _ => unknownFault?_eq_none_iff.symm

theorem isEnabled_of_mem_enabled (config : Config) :
    ∀ selection ∈ enabled config, selection.isEnabled = true :=
  fun _ inside => (List.mem_filter.mp inside).2

/-- What is meant is what comes out. -/
theorem Resolution.ofConfig_eq (resolution : config.Resolution engine outcome) :
    Linter.ofConfig engine config = outcome := by
  rw [ofConfig_eq_steps]
  cases resolution with
  | @malformed entry fault inside malformed least =>
    have found : config.rules.entries.findSome? (fun entry => entryFault? entry.1 entry.2) =
        some fault := by
      refine (findSome?_eq_some_iff_least config.rules.sorted).mpr
        ⟨entry, inside, malformed_iff.mp malformed, fun other inside less => ?_⟩
      refine Option.eq_none_iff_forall_ne_some.mpr fun fault found => ?_
      exact least other inside less fault (malformed_iff.mpr found)
    rw [found]
  | @unknown entry wellShaped inside unknown least =>
    have found : config.rules.entries.findSome? unknownFault? = some (.unknownRule entry.1) :=
      (findSome?_eq_some_iff_least config.rules.sorted).mpr
        ⟨entry, inside, unknownFault?_eq_some_iff.mpr ⟨unknown, rfl⟩,
          fun other inside less => unknownFault?_eq_none_iff.mpr (least other inside less)⟩
    rw [isWellShaped_iff.mp wellShaped, found]
  | refused wellShaped known split accepted refused =>
    rw [isWellShaped_iff.mp wellShaped, isKnown_iff.mp known]
    have allEnabled := isEnabled_of_mem_enabled config
    rw [split] at allEnabled
    rw [split]
    exact addSelected_of_refused accepted refused allEnabled Linter.empty
  | active wellShaped known activated registered =>
    rw [isWellShaped_iff.mp wellShaped, isKnown_iff.mp known]
    have added := addSelected_of_activates activated (isEnabled_of_mem_enabled config) Linter.empty
    exact added.trans (congrArg Except.ok registered.symm)

theorem exists_resolution (config : Config) :
    ∃ outcome, config.Resolution engine outcome := by
  cases shape : config.rules.entries.findSome? fun entry => entryFault? entry.1 entry.2 with
  | some fault =>
    obtain ⟨entry, inside, found, least⟩ :=
      (findSome?_eq_some_iff_least config.rules.sorted).mp shape
    refine ⟨_, .malformed inside (malformed_iff.mpr found) fun other inside less fault faulty => ?_⟩
    rw [malformed_iff, least other inside less] at faulty
    cases faulty
  | none =>
    have wellShaped := isWellShaped_iff.mpr shape
    cases existence : config.rules.entries.findSome? unknownFault? with
    | some fault =>
      obtain ⟨entry, inside, found, least⟩ :=
        (findSome?_eq_some_iff_least config.rules.sorted).mp existence
      exact ⟨_, .unknown wellShaped inside (unknownFault?_eq_some_iff.mp found).1
        fun other inside less => unknownFault?_eq_none_iff.mp (least other inside less)⟩
    | none =>
      have known := isKnown_iff.mpr existence
      obtain ⟨activations, activated⟩ | ⟨before, selection, after, fault, split, refused⟩ :=
        activates_or_refused (enabled config)
      · have kept : (Linter.register activations).activations = activations := by
          rw [Linter.activations_register]
          exact List.filter_eq_self.mpr
            (isEnabled_of_activates activated (isEnabled_of_mem_enabled config))
        refine ⟨.ok (Linter.register activations), .active wellShaped known ?_ ?_⟩
        · rw [kept]
          exact activated
        · rw [kept]
      · exact ⟨_, .refused wellShaped known split refused.1 refused.2⟩

/-! ### Options that are not looked at -/

theorem IsWellShaped.erased (wellShaped : config.IsWellShaped) : config.erased.IsWellShaped := by
  intro entry inside fault malformed
  obtain ⟨⟨id, original⟩, listed, rfl⟩ := List.mem_map.mp inside
  refine wellShaped _ listed fault ?_
  cases malformed with
  | blank blank => exact .blank blank
  | noTable present given noObject =>
    refine .noTable present ?_ noObject
    rw [RuleEntry.erased] at given
    split at given
    · exact given
    · cases given

/-- Lists whose members are alike as far as they are not off. -/
theorem filter_isEnabled_map_congr {α : Type} {first second : α → Selection} {items : List α}
    (alike : ∀ item ∈ items,
      [first item].filter Selection.isEnabled = [second item].filter Selection.isEnabled) :
    (items.map first).filter Selection.isEnabled =
      (items.map second).filter Selection.isEnabled := by
  induction items with
  | nil => rfl
  | cons item rest inductionHypothesis =>
    obtain ⟨here, others⟩ := List.forall_mem_cons.mp alike
    rw [List.map_cons, List.map_cons, ← List.singleton_append, List.filter_append, here,
      inductionHypothesis others, ← List.filter_append, List.singleton_append]

theorem filter_isEnabled_ofEntry_erased (id : String) (entry : RuleEntry) :
    [ofEntry (id, entry.erased)].filter Selection.isEnabled =
      [ofEntry (id, entry)].filter Selection.isEnabled := by
  rw [RuleEntry.erased]
  split
  · rfl
  · rename_i disabled
    have off : ∀ options, ¬isEnabled ⟨id, entry.severity, options⟩ = true := fun _ => disabled
    exact (List.filter_cons_of_neg (off none)).trans
      (List.filter_cons_of_neg (off entry.options)).symm

theorem enabled_erased (config : Config) : enabled config.erased = enabled config := by
  rw [enabled, enabled, resolved, resolved, List.filter_append, List.filter_append]
  refine congrArg₂ List.append ?_ ?_
  · refine filter_isEnabled_map_congr fun selection _ => ?_
    have looked : config.erased.rules.entries.lookup selection.id =
        (config.rules.entries.lookup selection.id).map RuleEntry.erased := lookup_map_snd ..
    rw [replaced, replaced, looked]
    cases config.rules.entries.lookup selection.id with
    | none => rfl
    | some entry => exact filter_isEnabled_ofEntry_erased _ entry
  · have kept : ∀ keep : String → Bool,
        config.erased.rules.entries.filter (fun entry => keep entry.1) =
          (config.rules.entries.filter fun entry => keep entry.1).map fun entry =>
            (entry.1, entry.2.erased) := fun _ => List.filter_map
    refine (congrArg (fun entries => (entries.map ofEntry).filter isEnabled)
      (kept fun name => name ∉ (preselected config).map (·.id))).trans ?_
    rw [List.map_map]
    exact filter_isEnabled_map_congr fun entry _ => filter_isEnabled_ofEntry_erased _ entry.2

theorem ofConfig_erased (wellShaped : config.IsWellShaped) :
    Linter.ofConfig engine config.erased = Linter.ofConfig engine config := by
  have unknown : config.erased.rules.entries.findSome? unknownFault? =
      config.rules.entries.findSome? unknownFault? := List.findSome?_map
  rw [ofConfig_eq_steps, ofConfig_eq_steps, isWellShaped_iff.mp wellShaped,
    isWellShaped_iff.mp wellShaped.erased, unknown, enabled_erased]

/-- Whatever the engine and the configuration: its faults and its linter are what is meant. The
active rules are the ones that are selected and not off, in their order and none of them twice,
and the options of the others could be missing. -/
theorem ofConfig_resolution (engine : PatternEngine) (config : Config) :
    (∀ outcome, Linter.ofConfig engine config = outcome ↔ config.Resolution engine outcome) ∧
    (∀ linter, Linter.ofConfig engine config = .ok linter →
      linter.ruleIds.map RuleId.name = (enabled config).map (·.id) ∧ linter.ruleIds.Nodup) ∧
    (config.IsWellShaped →
        Linter.ofConfig engine config.erased = Linter.ofConfig engine config) := by
  have resolution : config.Resolution engine (Linter.ofConfig engine config) := by
    obtain ⟨outcome, resolution⟩ := exists_resolution config
    rw [resolution.ofConfig_eq]
    exact resolution
  refine ⟨fun outcome => ⟨?_, Resolution.ofConfig_eq⟩, fun linter made => ?_,
    ofConfig_erased⟩
  · rintro rfl
    exact resolution
  · rw [made] at resolution
    cases resolution with
    | active wellShaped known activated registered =>
      have names : linter.ruleIds.map RuleId.name = (enabled config).map (·.id) := by
        rw [Linter.ruleIds, List.map_map]
        exact names_of_activates activated
      have distinct : ((enabled config).map (·.id)).Nodup :=
        (nodup_ids_resolved config).sublist (List.filter_sublist.map _)
      refine ⟨names, ?_⟩
      rw [← names] at distinct
      exact distinct.of_map

/-- A preset with one rule switched off, one replaced, and one more rule. -/
def sampleOverrides : Config where
  preset := some .strict
  rules := ⟨[("no-generic-error", ⟨.off, some ⟨.object [("unread", .null)], by decide⟩⟩),
    ("no-throw-literal",
      ⟨.warn, some ⟨.object [("allowThrowingObjects", .boolean true)], by decide⟩⟩),
    ("require-hardcoded-error-message", ⟨.error, none⟩)], by decide⟩

/-- The replaced rule keeps its place, and the other rule comes last. -/
theorem ofConfig_resolution_sample :
    ∃ linter, Linter.ofConfig Pattern.engine sampleOverrides = .ok linter ∧
      linter.ruleIds.map RuleId.name =
        ["require-custom-error", "no-throw-literal", "require-hardcoded-error-message"] ∧
      Linter.ofConfig Pattern.engine sampleOverrides.erased = .ok linter := by
  obtain ⟨-, names, unread⟩ := ofConfig_resolution Pattern.engine sampleOverrides
  obtain ⟨linter, made⟩ :
    ∃ linter, Linter.ofConfig Pattern.engine sampleOverrides = .ok linter := ⟨_, rfl⟩
  have wellShaped : sampleOverrides.IsWellShaped := isWellShaped_iff.mpr (by decide)
  exact ⟨linter, made, (names linter made).1, (unread wellShaped).trans made⟩

end Config

end ErrorLint
