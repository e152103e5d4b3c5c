/-
This file says which options a rule accepts, and what it is then. Every rule has a list of
options with their defaults; a value for them is accepted as a list of settings says. Two rules
look at their settings once more: a threshold must ask for a repetition, and the patterns must
be some that the engine knows, whatever engine that is.

All five rules read their options in the same way and then finish with what they are set to. So
one argument covers them, given for each rule that its fields make up its options, and what the
rule makes of them.
-/

import ErrorLint.Proofs.Config.Settings
import ErrorLint.Proofs.Rule.LiteralMessages

namespace ErrorLint

/-! ### Options and settings -/

/-- The options of every rule, with their defaults. -/
def RuleId.options : RuleId → List (String × Setting)
  | .noThrowLiteral =>
    [("allowThrowingObjects", .flag false), ("allowThrowingUnknown", .flag false)]
  | .noGenericError => [("allowedErrorNames", .texts [])]
  | .requireCustomError =>
    [("allowedBaseErrors", .texts ["Error"]), ("requireErrorSuffix", .flag true)]
  | .noLiteralErrorMessage =>
    [("allowedErrorClasses", .texts []), ("allowedPatterns", .texts []),
      ("checkTemplateLiterals", .flag true)]
  | .requireHardcodedErrorMessage =>
    [("threshold", .count 2), ("ignoreErrorClasses", .texts []),
      ("checkImportedErrors", .flag true)]

def NoThrowLiteral.Options.settings (options : Options) : List (String × Setting) :=
  [("allowThrowingObjects", .flag options.allowThrowingObjects),
    ("allowThrowingUnknown", .flag options.allowThrowingUnknown)]

def NoGenericError.Options.settings (options : Options) : List (String × Setting) :=
  [("allowedErrorNames", .texts options.allowedErrorNames)]

def RequireCustomError.Options.settings (options : Options) : List (String × Setting) :=
  [("allowedBaseErrors", .texts options.allowedBaseErrors),
    ("requireErrorSuffix", .flag options.requireErrorSuffix)]

def NoLiteralErrorMessage.Options.settings (options : Options) : List (String × Setting) :=
  [("allowedErrorClasses", .texts options.allowedErrorClasses),
    ("allowedPatterns", .texts options.allowedPatterns),
    ("checkTemplateLiterals", .flag options.checkTemplateLiterals)]

def RequireHardcodedErrorMessage.Options.settings (options : Options) : List (String × Setting) :=
  [("threshold", .count options.threshold),
    ("ignoreErrorClasses", .texts options.ignoreErrorClasses),
    ("checkImportedErrors", .flag options.checkImportedErrors)]

namespace Rule

section

variable (engine : PatternEngine)

/-- The settings that a rule works with. Of its patterns it keeps the tests that the engine has
made of them. -/
inductive Holds : Rule → List (String × Setting) → Prop
  | noThrowLiteral (options : NoThrowLiteral.Options) :
    Holds (.noThrowLiteral options) options.settings
  | noGenericError (options : NoGenericError.Options) :
    Holds (.noGenericError options) options.settings
  | requireCustomError (options : RequireCustomError.Options) :
    Holds (.requireCustomError options) options.settings
  | noLiteralErrorMessage {options : NoLiteralErrorMessage.Options} {tests : List (String → Bool)}
    (compiled : options.allowedPatterns.map engine.compile = tests.map .ok) :
    Holds (.noLiteralErrorMessage
      ⟨options.allowedErrorClasses, tests, options.checkTemplateLiterals⟩) options.settings
  | requireHardcodedErrorMessage (options : RequireHardcodedErrorMessage.Options) :
    Holds (.requireHardcodedErrorMessage options) options.settings

/-- The threshold, if there is one, asks for a repetition. -/
def AsksRepetition (settings : List (String × Setting)) : Prop :=
  ∀ threshold, ("threshold", .count threshold) ∈ settings → 2 ≤ threshold

/-- The patterns, if there are any, are such to the engine. -/
def HasPatterns (settings : List (String × Setting)) : Prop :=
  ∀ patterns, ("allowedPatterns", .texts patterns) ∈ settings →
    ∀ pattern ∈ patterns, (engine.compile pattern).isOk

/-- Of the patterns this is the first one that is none to the engine, and what it says of it. -/
def FirstFaulty (settings : List (String × Setting)) (pattern message : String) : Prop :=
  ∃ before after, ("allowedPatterns", .texts (before ++ pattern :: after)) ∈ settings ∧
    (∀ earlier ∈ before, (engine.compile earlier).isOk) ∧ engine.compile pattern = .error message

/-- What comes of activating a rule with a value for its options. -/
structure IsActivation (id : RuleId) (value : Option JsonValue)
    (outcome : Except ConfigError Rule) :
    Prop where
  /-- There is a rule exactly if the value is accepted with settings that the rule can use. -/
  succeeds : (∃ rule, outcome = .ok rule) ↔
    ∃ settings, Setting.Accepts id.options value settings ∧ AsksRepetition settings ∧
      HasPatterns engine settings
  /-- The rule works with these settings. -/
  holds : ∀ rule, outcome = .ok rule →
    rule.id = id ∧ ∃ settings, Setting.Accepts id.options value settings ∧
      Holds engine rule settings
  /-- If only patterns are wrong, the fault is the first of them, and otherwise the options. -/
  fails : ∀ fault, outcome = .error fault →
    (∃ settings pattern message, Setting.Accepts id.options value settings ∧
      AsksRepetition settings ∧ FirstFaulty engine settings pattern message ∧
      fault = .invalidPattern id.name pattern message) ∨
    (¬∃ settings, Setting.Accepts id.options value settings ∧ AsksRepetition settings) ∧
      ∃ message, fault = .invalidOptions id.name message

end

/-! ### Reading the options -/

section

variable {Options : Type} {id : RuleId} {fields : List (RecordField Value Options)}
  {settings : Options → List (String × Setting)} {typeName : String} {defaults : Options}
  {value : Option JsonValue}

theorem readOptions_of_null {read : Value → Except Mismatch Options} {written : JsonValue}
    (null : written.value = .null) :
    readOptions id read defaults (some written) = .ok defaults := by
  rw [readOptions, Option.map_some, null]

theorem readOptions_of_ne_null {read : Value → Except Mismatch Options} {written : JsonValue}
    (notNull : written.value ≠ .null) :
    readOptions id read defaults (some written) =
      (read written.value).mapError fun fault => .invalidOptions id.name fault.message := by
  rw [readOptions, Option.map_some]
  split
  · rename_i none
    cases none
  · rename_i null
    exact absurd (Option.some.inj null) notNull
  · rename_i same
    rw [Option.some.inj same]

/-- The options of a rule are read exactly if the value is accepted, and are then set so. -/
theorem readOptions_iff (covers : RecordField.Covers fields settings)
    {results : List (String × Setting)} :
    Setting.Accepts (settings defaults) value results ↔
      ∃ options, readOptions id (Value.readRecord typeName fields defaults) defaults value =
        .ok options ∧ settings options = results := by
  have nothing : results = settings defaults ↔
      ∃ options, (.ok defaults : Except ConfigError Options) = .ok options ∧
        settings options = results := by
    simp [eq_comm]
  cases value with
  | none => exact Setting.accepts_none_iff.trans nothing
  | some written =>
    by_cases null : written.value = .null
    · rw [readOptions_of_null null]
      exact (Setting.accepts_null_iff null).trans nothing
    · rw [covers.readRecord_iff typeName null, readOptions_of_ne_null null]
      simp only [mapError_eq_ok_iff]

theorem readOptions_eq_error {read : Value → Except Mismatch Options} {fault : ConfigError}
    (failed : readOptions id read defaults value = .error fault) :
    ∃ message, fault = .invalidOptions id.name message := by
  unfold readOptions at failed
  split at failed
  · cases failed
  · cases failed
  · rename_i written notNull present
    cases found : read written with
    | ok options =>
      rw [found] at failed
      cases failed
    | error mismatch =>
      rw [found] at failed
      exact ⟨_, (Except.error.inj failed).symm⟩

end

/-! ### Finishing a rule -/

/-- What a rule makes of its options: a rule that works with their settings if it can use them,
and otherwise the fault that is in them. -/
structure Finishes {Options : Type} (engine : PatternEngine) (id : RuleId)
    (settings : Options → List (String × Setting)) (finish : Options → Except ConfigError Rule) :
    Prop where
  done : ∀ {options rule}, finish options = .ok rule →
    rule.id = id ∧ Holds engine rule (settings options) ∧ AsksRepetition (settings options) ∧
      HasPatterns engine (settings options)
  failed : ∀ {options fault}, finish options = .error fault →
    (AsksRepetition (settings options) ∧ ∃ pattern message,
      FirstFaulty engine (settings options) pattern message ∧
        fault = .invalidPattern id.name pattern message) ∨
    ¬AsksRepetition (settings options) ∧ ∃ message, fault = .invalidOptions id.name message

section

variable {engine : PatternEngine}

theorem not_firstFaulty_of_hasPatterns {settings : List (String × Setting)}
    {pattern message : String} (patterns : HasPatterns engine settings) :
    ¬FirstFaulty engine settings pattern message := by
  rintro ⟨before, after, inside, -, faulty⟩
  have usable := patterns _ inside pattern (List.mem_append_right _ List.mem_cons_self)
  rw [faulty] at usable
  cases usable

/-- Options that are read and then finished are activated. -/
theorem isActivation_bind {Options : Type} {id : RuleId}
    {fields : List (RecordField Value Options)} {settings : Options → List (String × Setting)}
    {defaults : Options} {finish : Options → Except ConfigError Rule}
    (covers : RecordField.Covers fields settings) (declared : settings defaults = id.options)
    (finishes : Finishes engine id settings finish) (typeName : String)
    (value : Option JsonValue) :
    IsActivation engine id value
      (readOptions id (Value.readRecord typeName fields defaults) defaults value >>= finish) := by
  have accepts : ∀ results, Setting.Accepts id.options value results ↔ ∃ options,
      readOptions id (Value.readRecord typeName fields defaults) defaults value = .ok options ∧
        settings options = results := by
    intro results
    rw [← declared]
    exact readOptions_iff covers
  cases read : readOptions id (Value.readRecord typeName fields defaults) defaults value with
  | error fault =>
    have refused : ∀ results, ¬Setting.Accepts id.options value results := by
      intro results accepted
      obtain ⟨options, read', -⟩ := (accepts results).mp accepted
      rw [read] at read'
      cases read'
    refine ⟨⟨?_, ?_⟩, nofun, fun other same => .inr ⟨?_, ?_⟩⟩
    · rintro ⟨rule, ⟨⟩⟩
    · rintro ⟨results, accepted, -⟩
      exact absurd accepted (refused results)
    · rintro ⟨results, accepted, -⟩
      exact refused results accepted
    · obtain rfl := Except.error.inj same
      exact readOptions_eq_error read
  | ok options =>
    have accepted : Setting.Accepts id.options value (settings options) :=
      (accepts _).mpr ⟨options, read, rfl⟩
    have only : ∀ results, Setting.Accepts id.options value results →
        settings options = results := by
      intro results accepted
      obtain ⟨options', read', rfl⟩ := (accepts results).mp accepted
      rw [read] at read'
      rw [Except.ok.inj read']
    show IsActivation engine id value (finish options)
    refine ⟨⟨?_, ?_⟩, fun rule done => ?_, fun fault failed => ?_⟩
    · rintro ⟨rule, done⟩
      exact ⟨_, accepted, (finishes.done done).2.2⟩
    · rintro ⟨results, accepted, asks, patterns⟩
      obtain rfl := only results accepted
      cases finished : finish options with
      | ok rule => exact ⟨rule, rfl⟩
      | error fault =>
        obtain ⟨-, _, _, faulty, -⟩ | ⟨low, -⟩ := finishes.failed finished
        · exact absurd faulty (not_firstFaulty_of_hasPatterns patterns)
        · exact absurd asks low
    · obtain ⟨same, holds, -⟩ := finishes.done done
      exact ⟨same, _, accepted, holds⟩
    · obtain ⟨asks, pattern, message, faulty, rfl⟩ | ⟨low, message, rfl⟩ :=
        finishes.failed failed
      · exact .inl ⟨_, pattern, message, accepted, asks, faulty, rfl⟩
      · refine .inr ⟨?_, message, rfl⟩
        rintro ⟨results, accepted, asks⟩
        obtain rfl := only results accepted
        exact low asks

/-- A rule that uses its options as they are, if none of them is a threshold or a list of
patterns. -/
theorem isActivation_map {Options : Type} {id : RuleId}
    {fields : List (RecordField Value Options)} {settings : Options → List (String × Setting)}
    {defaults : Options} (make : Options → Rule) (covers : RecordField.Covers fields settings)
    (declared : settings defaults = id.options) (same : ∀ options, (make options).id = id)
    (holds : ∀ options, Holds engine (make options) (settings options))
    (asks : ∀ options, AsksRepetition (settings options))
    (patterns : ∀ options, HasPatterns engine (settings options)) (typeName : String)
    (value : Option JsonValue) :
    IsActivation engine id value
      ((readOptions id (Value.readRecord typeName fields defaults) defaults value).map make) := by
  have finishes : Finishes engine id settings fun options => .ok (make options) := by
    refine ⟨?_, nofun⟩
    rintro options rule ⟨⟩
    exact ⟨same options, holds options, asks options, patterns options⟩
  have bound := isActivation_bind covers declared finishes typeName value
  cases read : readOptions id (Value.readRecord typeName fields defaults) defaults value <;>
    rwa [read] at bound

/-! ### The rules -/

open RecordField

theorem covers_noThrowLiteral :
    Covers NoThrowLiteral.Options.fields NoThrowLiteral.Options.settings :=
  covers_of (fun _ => rfl) (by decide) fun distinct => List.forall_mem_cons.mpr
    ⟨handles_of reads_boolean distinct 0 (·.allowThrowingObjects) (fun _ => rfl) fun _ _ => rfl,
      List.forall_mem_singleton.mpr (handles_of reads_boolean distinct 1 (·.allowThrowingUnknown)
        (fun _ => rfl) fun _ _ => rfl)⟩

theorem covers_noGenericError :
    Covers NoGenericError.Options.fields NoGenericError.Options.settings :=
  covers_of (fun _ => rfl) (by decide) fun distinct => List.forall_mem_singleton.mpr
    (handles_of reads_strings distinct 0 (·.allowedErrorNames) (fun _ => rfl) fun _ _ => rfl)

theorem covers_requireCustomError :
    Covers RequireCustomError.Options.fields RequireCustomError.Options.settings :=
  covers_of (fun _ => rfl) (by decide) fun distinct => List.forall_mem_cons.mpr
    ⟨handles_of reads_strings distinct 0 (·.allowedBaseErrors) (fun _ => rfl) fun _ _ => rfl,
      List.forall_mem_singleton.mpr (handles_of reads_boolean distinct 1 (·.requireErrorSuffix)
        (fun _ => rfl) fun _ _ => rfl)⟩

theorem covers_noLiteralErrorMessage :
    Covers NoLiteralErrorMessage.Options.fields NoLiteralErrorMessage.Options.settings :=
  covers_of (fun _ => rfl) (by decide) fun distinct => List.forall_mem_cons.mpr
    ⟨handles_of reads_strings distinct 0 (·.allowedErrorClasses) (fun _ => rfl) fun _ _ => rfl,
      List.forall_mem_cons.mpr
        ⟨handles_of reads_strings distinct 1 (·.allowedPatterns) (fun _ => rfl) fun _ _ => rfl,
          List.forall_mem_singleton.mpr (handles_of reads_boolean distinct 2
            (·.checkTemplateLiterals) (fun _ => rfl) fun _ _ => rfl)⟩⟩

theorem covers_requireHardcodedErrorMessage :
    Covers RequireHardcodedErrorMessage.Options.fields
      RequireHardcodedErrorMessage.Options.settings :=
  covers_of (fun _ => rfl) (by decide) fun distinct => List.forall_mem_cons.mpr
    ⟨handles_of reads_count distinct 0 (·.threshold) (fun _ => rfl) fun _ _ => rfl,
      List.forall_mem_cons.mpr
        ⟨handles_of reads_strings distinct 1 (·.ignoreErrorClasses) (fun _ => rfl) fun _ _ => rfl,
          List.forall_mem_singleton.mpr (handles_of reads_boolean distinct 2
            (·.checkImportedErrors) (fun _ => rfl) fun _ _ => rfl)⟩⟩

/-- Tests are made of the patterns up to the first one that is none. -/
theorem exists_of_compilePatterns_eq_error {patterns : List String} {pattern message : String}
    (failed : NoLiteralErrorMessage.compilePatterns engine patterns = .error (pattern, message)) :
    ∃ before after, patterns = before ++ pattern :: after ∧
      (∀ earlier ∈ before, (engine.compile earlier).isOk) ∧
      engine.compile pattern = .error message := by
  induction patterns with
  | nil => cases failed
  | cons first rest inductionHypothesis =>
    rw [NoLiteralErrorMessage.compilePatterns] at failed
    split at failed
    · rename_i faulty
      obtain ⟨rfl, rfl⟩ := Prod.mk.inj (Except.error.inj failed)
      exact ⟨[], rest, rfl, List.forall_mem_nil _, faulty⟩
    · rename_i test found
      obtain ⟨before, after, rfl, usable, faulty⟩ :=
        inductionHypothesis (map_eq_error_iff.mp failed)
      refine ⟨first :: before, after, rfl, List.forall_mem_cons.mpr ⟨?_, usable⟩, faulty⟩
      rw [found]
      rfl

theorem finishes_noLiteralErrorMessage :
    Finishes engine .noLiteralErrorMessage NoLiteralErrorMessage.Options.settings fun options =>
      match NoLiteralErrorMessage.Settings.ofOptions engine options with
      | .ok settings => .ok (noLiteralErrorMessage settings)
      | .error (pattern, message) =>
        .error (.invalidPattern (RuleId.name .noLiteralErrorMessage) pattern message) := by
  have asks : ∀ options : NoLiteralErrorMessage.Options, AsksRepetition options.settings := by
    intro options threshold inside
    simp [NoLiteralErrorMessage.Options.settings] at inside
  constructor
  · intro options rule done
    split at done
    · rename_i settings ready
      obtain rfl := Except.ok.inj done
      obtain ⟨tests, compiled, rfl⟩ := map_eq_ok_iff.mp ready
      have paired := NoLiteralErrorMessage.map_ok_of_compilePatterns compiled
      refine ⟨rfl, .noLiteralErrorMessage paired, asks options,
        fun patterns inside pattern listed => ?_⟩
      obtain rfl : patterns = options.allowedPatterns := by
        simpa [NoLiteralErrorMessage.Options.settings] using inside
      have found : engine.compile pattern ∈ tests.map .ok := by
        rw [← paired]
        exact List.mem_map_of_mem listed
      obtain ⟨test, -, found⟩ := List.mem_map.mp found
      rw [← found]
      rfl
    · cases done
  · intro options fault failed
    split at failed
    · cases failed
    · rename_i pattern message unready
      obtain rfl := Except.error.inj failed
      obtain ⟨before, after, split, usable, faulty⟩ :=
        exists_of_compilePatterns_eq_error (map_eq_error_iff.mp unready)
      refine .inl ⟨asks options, pattern, message, ⟨before, after, ?_, usable, faulty⟩, rfl⟩
      rw [← split]
      exact List.mem_cons_of_mem _ List.mem_cons_self

theorem finishes_requireHardcodedErrorMessage :
    Finishes engine .requireHardcodedErrorMessage RequireHardcodedErrorMessage.Options.settings
      fun options =>
        if options.threshold < RequireHardcodedErrorMessage.minThreshold then
          .error (.invalidOptions (RuleId.name .requireHardcodedErrorMessage)
            (RequireHardcodedErrorMessage.lowThresholdMessage options.threshold))
        else
          .ok (requireHardcodedErrorMessage options) := by
  have asks_iff : ∀ options : RequireHardcodedErrorMessage.Options,
      AsksRepetition options.settings ↔ 2 ≤ options.threshold := by
    intro options
    simp [AsksRepetition, RequireHardcodedErrorMessage.Options.settings]
  constructor
  · intro options rule done
    split at done
    · cases done
    · rename_i highEnough
      obtain rfl := Except.ok.inj done
      refine ⟨rfl, .requireHardcodedErrorMessage options, (asks_iff options).mpr
        (Nat.le_of_not_lt highEnough), fun texts inside => ?_⟩
      simp [RequireHardcodedErrorMessage.Options.settings] at inside
  · intro options fault failed
    split at failed
    · rename_i low
      obtain rfl := Except.error.inj failed
      exact .inr ⟨fun asks => Nat.not_le_of_lt low ((asks_iff options).mp asks), _, rfl⟩
    · cases failed

/-- Whatever the rule, its activation goes by its options. -/
theorem isActivation_activate (id : RuleId) (value : Option JsonValue) :
    IsActivation engine id value (activate engine id value) := by
  cases id with
  | noThrowLiteral =>
    exact isActivation_map noThrowLiteral covers_noThrowLiteral rfl (fun _ => rfl) .noThrowLiteral
      (by simp [AsksRepetition, NoThrowLiteral.Options.settings])
      (by simp [HasPatterns, NoThrowLiteral.Options.settings]) _ value
  | noGenericError =>
    exact isActivation_map noGenericError covers_noGenericError rfl (fun _ => rfl) .noGenericError
      (by simp [AsksRepetition, NoGenericError.Options.settings])
      (by simp [HasPatterns, NoGenericError.Options.settings]) _ value
  | requireCustomError =>
    exact isActivation_map requireCustomError covers_requireCustomError rfl (fun _ => rfl)
      .requireCustomError
      (by simp [AsksRepetition, RequireCustomError.Options.settings])
      (by simp [HasPatterns, RequireCustomError.Options.settings]) _ value
  | noLiteralErrorMessage =>
    exact isActivation_bind covers_noLiteralErrorMessage rfl finishes_noLiteralErrorMessage _
      value
  | requireHardcodedErrorMessage =>
    exact isActivation_bind covers_requireHardcodedErrorMessage rfl
      finishes_requireHardcodedErrorMessage _ value

end

/-! ### Rules by name -/

/-- Whatever the engine, the name and the value for the options: if no rule has the
name, it is an unknown rule, and otherwise the rule of the name is activated with the options that
are given, and the defaults of the others. -/
theorem create_isActivation (engine : PatternEngine) (name : String)
    (value : Option JsonValue) :
    (∀ unknown, create engine name value = .error (.unknownRule unknown) ↔
      unknown = name ∧ name ∉ RuleId.all.map RuleId.name) ∧
    ∀ id : RuleId, id.name = name → IsActivation engine id value (create engine name value) := by
  have known : ∀ id : RuleId, id.name = name →
      create engine name value = activate engine id value := by
    rintro id rfl
    exact create_name engine id value
  refine ⟨fun unknown => ?_, fun id named => ?_⟩
  · cases found : RuleId.ofName? name with
    | none =>
      have listed := RuleId.ofName?_eq_none_iff.mp found
      rw [create, found]
      simp [listed, eq_comm]
    | some id =>
      have named : id.name = name := by simpa using List.find?_some found
      refine iff_of_false (fun failed => ?_) fun unlisted => ?_
      · rw [known id named] at failed
        obtain ⟨_, _, _, -, -, -, ⟨⟩⟩ | ⟨-, _, ⟨⟩⟩ :=
          (isActivation_activate id value).fails _ failed
      · rw [RuleId.ofName?_eq_none_iff.mpr unlisted.2] at found
        cases found
  · rw [known id named]
    exact isActivation_activate id value

/-- Options in their order, the last of which is not given. -/
def sampleOptions : Option JsonValue :=
  some ⟨.array [.array [.string "ApiError"], .array [.string "^Http", .string "Error$"]],
    by decide⟩

def sampleSettings : List (String × Setting) :=
  [("allowedErrorClasses", .texts ["ApiError"]), ("allowedPatterns", .texts ["^Http", "Error$"]),
    ("checkTemplateLiterals", .flag true)]

/-- The rule is activated, and checks templates. -/
theorem create_isActivation_sample :
    Setting.Accepts RuleId.noLiteralErrorMessage.options sampleOptions sampleSettings ∧
      ∃ rule, create Pattern.engine "no-literal-error-message" sampleOptions = .ok rule ∧
        rule.id = .noLiteralErrorMessage := by
  have accepted : Setting.Accepts RuleId.noLiteralErrorMessage.options sampleOptions
      sampleSettings :=
    ⟨_, .inOrder (by decide), by decide, .cons (.taken rfl (.texts _ ["ApiError"]))
      (.cons (.taken rfl (.texts _ ["^Http", "Error$"])) (.cons (.kept rfl) .nil))⟩
  have asks : AsksRepetition sampleSettings := by simp [AsksRepetition, sampleSettings]
  have patterns : HasPatterns Pattern.engine sampleSettings := by
    intro texts inside
    obtain rfl : texts = ["^Http", "Error$"] := by simpa [sampleSettings] using inside
    decide +kernel
  have activation :=
    (create_isActivation Pattern.engine "no-literal-error-message" sampleOptions).2
      .noLiteralErrorMessage rfl
  obtain ⟨rule, created⟩ := activation.succeeds.mpr ⟨_, accepted, asks, patterns⟩
  exact ⟨accepted, rule, created, (activation.holds rule created).1⟩

end Rule

end ErrorLint
