/-
This file says what the rule about literal messages reports. It looks at every construction
of a class that is named like an error and at every call of an error class of the language,
wherever they stand, and asks for their first argument alone. So a node is reported if it
makes such an error, the class is not permitted, and the first argument is a text; and it is
reported once, since what stands in the callee or in the arguments are nodes of their own.

What a pattern is and what it says about a class is left to an engine, which may be any.
-/

import ErrorLint.Pattern.Matching
import ErrorLint.Proofs.Linter.Verdicts

namespace ErrorLint.NoLiteralErrorMessage

/-! ### What is wrong with a node -/

/-- A callee names a class: by itself, or at the end of a member access. -/
def Names (callee : Node) (name : String) : Prop :=
  callee.form = .identifier name ∨ ∃ owner, callee.form = .member owner name

/-- A node makes an error of a class from arguments. -/
inductive Makes (node : Node) (name : String) (arguments : List Node) : Prop where
  | construction (callee : Node) (constructs : node.form = .construction callee arguments)
    (named : Names callee name) (suffix : "Error".toList <:+ name.toList)
  | call (callee : Node) (calls : node.form = .call callee arguments)
    (named : Names callee name) (builtin : name ∈ ErrorName.builtins)

/-- The options permit literal messages for a class, by its name or by a pattern that the
engine finds in the name. -/
def Options.Permits (engine : PatternEngine) (options : Options) (name : String) : Prop :=
  name ∈ options.allowedErrorClasses ∨
    ∃ pattern ∈ options.allowedPatterns, ∃ test,
      engine.compile pattern = .ok test ∧ test name = true

/-- How a message is shown: as it is, or cut after thirty characters. -/
def Shows (message shown : String) : Prop :=
  (message.length ≤ 30 ∧ shown = message) ∨
    (30 < message.length ∧ shown = String.ofList (message.toList.take 30) ++ "...")

/-- What is wrong with a node, and what is to be said about it. -/
inductive Objection (engine : PatternEngine) (options : Options) (node : Node) :
    Report → Prop where
  | literal (name message shown : String) (argument : Node) (rest : List Node)
    (makes : Makes node name (argument :: rest)) (forbidden : ¬options.Permits engine name)
    (text : argument.form = .literal (.string message)) (shows : Shows message shown) :
    Objection engine options node
      ⟨argument.place, "noLiteralMessage",
        ⟨[("errorClass", .text name), ("message", .text shown)]⟩, none⟩
  | template (name : String) (argument : Node) (rest substitutions : List Node)
    (makes : Makes node name (argument :: rest)) (forbidden : ¬options.Permits engine name)
    (text : argument.form = .template substitutions)
    (required : options.checkTemplateLiterals = true) :
    Objection engine options node
      ⟨argument.place, "noTemplateLiteralMessage", ⟨[("errorClass", .text name)]⟩, none⟩

/-! ### The questions of the rule -/

section

variable {node callee argument : Node} {name : String}

theorem typeName?_eq_some_iff : callee.typeName? = some name ↔ Names callee name := by
  unfold Node.typeName? Names
  split
  · rename_i found form
    simp [form]
  · rename_i owner property form
    simp [form]
  · rename_i notName notMember
    refine iff_of_false nofun ?_
    rintro (form | ⟨owner, form⟩)
    · exact notName name form
    · exact notMember owner name form

/-- The rule looks at a node and its first argument if the node makes an error from it. -/
theorem checkedClass?_and_firstArgument?_iff :
    checkedClass? node = some name ∧ node.firstArgument? = some argument ↔
      ∃ rest, Makes node name (argument :: rest) := by
  constructor
  · rintro ⟨checked, first⟩
    unfold checkedClass? at checked
    split at checked
    · rename_i callee arguments form
      rw [Option.filter_eq_some_iff, typeName?_eq_some_iff, ErrorName.isErrorType_iff] at checked
      rw [Node.firstArgument?, form] at first
      obtain ⟨rest, rfl⟩ := List.head?_eq_some_iff.mp first
      exact ⟨rest, .construction callee form checked.1 checked.2⟩
    · rename_i callee arguments form
      rw [Option.filter_eq_some_iff, typeName?_eq_some_iff, ErrorName.isBuiltin_iff] at checked
      rw [Node.firstArgument?, form] at first
      obtain ⟨rest, rfl⟩ := List.head?_eq_some_iff.mp first
      exact ⟨rest, .call callee form checked.1 checked.2⟩
    · cases checked
  · rintro ⟨rest, ⟨callee, form, named, suffix⟩ | ⟨callee, form, named, builtin⟩⟩
    · rw [checkedClass?, Node.firstArgument?, form]
      exact ⟨Option.filter_eq_some_iff.mpr
        ⟨typeName?_eq_some_iff.mpr named, ErrorName.isErrorType_iff.mpr suffix⟩, rfl⟩
    · rw [checkedClass?, Node.firstArgument?, form]
      exact ⟨Option.filter_eq_some_iff.mpr
        ⟨typeName?_eq_some_iff.mpr named, ErrorName.isBuiltin_iff.mpr builtin⟩, rfl⟩

theorem shape_eq_template_iff :
    argument.shape = .template ↔ ∃ substitutions, argument.form = .template substitutions := by
  rw [Node.shape_eq]
  cases argument.form <;> simp [Form.shape]

end

/-- A message is shown as a report shows it. -/
theorem shows_iff {message shown : String} : Shows message shown ↔ shown = preview message := by
  unfold Shows preview previewLength
  rw [← String.length_toList]
  dsimp only
  split
  · rename_i long
    simp [long, Nat.not_le_of_gt long, String.ofList_append]
  · rename_i short
    simp [short, Nat.le_of_not_gt short]

/-! ### The options of the rule -/

section

variable {engine : PatternEngine} {options : Options} {settings : Settings}

/-- If tests are made of all patterns, one is made of each of them. -/
theorem map_ok_of_compilePatterns {patterns : List String} {tests : List (String → Bool)}
    (compiled : compilePatterns engine patterns = .ok tests) :
    patterns.map engine.compile = tests.map .ok := by
  induction patterns generalizing tests with
  | nil =>
    obtain rfl := Except.ok.inj compiled
    rfl
  | cons pattern rest inductionHypothesis =>
    unfold compilePatterns at compiled
    split at compiled
    · cases compiled
    · rename_i test found
      obtain ⟨otherTests, others, rfl⟩ := map_eq_ok_iff.mp compiled
      rw [List.map_cons, List.map_cons, found, inductionHypothesis others]

/-- With its patterns made into tests the rule allows what its options permit. -/
theorem allows_iff_permits (ready : Settings.ofOptions engine options = .ok settings)
    {name : String} : settings.allows name = true ↔ options.Permits engine name := by
  obtain ⟨tests, compiled, rfl⟩ := map_eq_ok_iff.mp ready
  have paired : ∀ test, test ∈ tests ↔
      ∃ pattern ∈ options.allowedPatterns, engine.compile pattern = .ok test := by
    intro test
    have same : .ok test ∈ options.allowedPatterns.map engine.compile ↔
        .ok test ∈ tests.map (.ok : (String → Bool) → Except String (String → Bool)) := by
      rw [map_ok_of_compilePatterns compiled]
    simpa using same.symm
  simp only [Settings.allows, Bool.or_eq_true, List.contains_iff_mem, List.any_eq_true, paired,
    Options.Permits]
  refine or_congr_right ⟨?_, ?_⟩
  · rintro ⟨test, ⟨pattern, listed, found⟩, holds⟩
    exact ⟨pattern, listed, test, found, holds⟩
  · rintro ⟨pattern, listed, test, found, holds⟩
    exact ⟨test, ⟨pattern, listed, found⟩, holds⟩

theorem checkTemplateLiterals_ofOptions
    (ready : Settings.ofOptions engine options = .ok settings) :
    settings.checkTemplateLiterals = options.checkTemplateLiterals := by
  obtain ⟨patterns, -, rfl⟩ := map_eq_ok_iff.mp ready
  rfl

/-- A rule that is created has the options that its value is read to, and its patterns are
made into tests. -/
theorem exists_settings_of_create {value : Option JsonValue} {rule : Rule}
    (created : Rule.create engine "no-literal-error-message" value = .ok rule) :
    ∃ options settings,
      Rule.readOptions .noLiteralErrorMessage Options.read Options.defaults value = .ok options ∧
        Settings.ofOptions engine options = .ok settings ∧
        rule = .noLiteralErrorMessage settings := by
  have activated := (Rule.create_name engine .noLiteralErrorMessage value).symm.trans created
  obtain ⟨options, read, finished⟩ := bind_eq_ok_iff.mp activated
  split at finished
  · rename_i settings ready
    exact ⟨options, settings, read, ready, (Except.ok.inj finished).symm⟩
  · cases finished

end

/-! ### What the rule reports -/

theorem verdict_iff_objection {engine : PatternEngine} {options : Options} {settings : Settings}
    (ready : Settings.ofOptions engine options = .ok settings) {tree : SourceTree}
    {memory : Memory} {node : Node} {report : Report} :
    Rule.Verdict tree memory node (.noLiteralErrorMessage settings) report ↔
      Objection engine options node report := by
  have classFirst : "errorClass" < "message" := by decide
  have forbids : ∀ name, settings.allows name = false ↔ ¬options.Permits engine name := by
    intro name
    rw [← Bool.not_eq_true, allows_iff_permits ready]
  constructor
  · intro verdict
    cases verdict with
    | passesLiteral name message argument checked forbidden first literal =>
      obtain ⟨rest, makes⟩ := checkedClass?_and_firstArgument?_iff.mp ⟨checked, first⟩
      have objection := Objection.literal name message (preview message) argument rest makes
        ((forbids name).mp forbidden) (Node.stringValue?_eq_some_iff.mp literal)
        (shows_iff.mpr rfl)
      simpa [Report.plain, Report.withData, MessageData.insert, MessageData.insertSorted,
        MessageData.empty, classFirst] using objection
    | passesTemplate name argument checked forbidden first template required =>
      obtain ⟨rest, makes⟩ := checkedClass?_and_firstArgument?_iff.mp ⟨checked, first⟩
      obtain ⟨substitutions, form⟩ := shape_eq_template_iff.mp template
      exact .template name argument rest substitutions makes ((forbids name).mp forbidden) form
        (checkTemplateLiterals_ofOptions ready ▸ required)
  · intro objection
    cases objection with
    | literal name message shown argument rest makes forbidden text shows =>
      obtain ⟨checked, first⟩ := checkedClass?_and_firstArgument?_iff.mpr ⟨rest, makes⟩
      obtain rfl := shows_iff.mp shows
      have verdict : Rule.Verdict tree memory node (.noLiteralErrorMessage settings) _ :=
        .passesLiteral name message argument checked ((forbids name).mpr forbidden) first
          (Node.stringValue?_eq_some_iff.mpr text)
      simpa [Report.plain, Report.withData, MessageData.insert, MessageData.insertSorted,
        MessageData.empty, classFirst] using verdict
    | template name argument rest substitutions makes forbidden text required =>
      obtain ⟨checked, first⟩ := checkedClass?_and_firstArgument?_iff.mpr ⟨rest, makes⟩
      exact .passesTemplate name argument checked ((forbids name).mpr forbidden) first
        (shape_eq_template_iff.mpr ⟨substitutions, text⟩)
        ((checkTemplateLiterals_ofOptions ready).trans required)

/-- Whatever the engine, and for all options that are accepted with it, the findings of the rule
are the constructions and calls that make an error with a literal message: one finding for each
of them, at the first argument and without a fix, in the order of the nodes. -/
theorem emit_register_literal_messages (engine : PatternEngine) {value : Option JsonValue}
    {rule : Rule}
    (created : Rule.create engine "no-literal-error-message" value = .ok rule)
    {severity : Severity} (enabled : severity.isEnabled = true) (tree : SourceTree) :
    ∃ options, Rule.readOptions .noLiteralErrorMessage Options.read Options.defaults value =
        .ok options ∧
      ∃ found : List (Node × Report),
        (∀ node report, (node, report) ∈ found ↔
          node ∈ tree.nodes ∧ Objection engine options node report) ∧
        found.Pairwise (fun first second => first.1.id < second.1.id) ∧
        (Linter.register [⟨rule, severity⟩]).emit tree = found.map fun finding =>
          Diagnostic.ofReport .noLiteralErrorMessage severity finding.2 := by
  obtain ⟨options, settings, read, ready, rfl⟩ := exists_settings_of_create created
  refine ⟨options, read, (Rule.noLiteralErrorMessage settings).verdicts tree, ?_,
    Rule.pairwise_verdicts _ tree, ?_⟩
  · intro node report
    rw [Rule.mem_verdicts, verdict_iff_objection ready]
  · have active : Activation.isEnabled ⟨Rule.noLiteralErrorMessage settings, severity⟩ = true :=
      enabled
    exact Linter.emit_register_verdicts active tree fun _ => rfl

end ErrorLint.NoLiteralErrorMessage

namespace ErrorLint

namespace Sample

/-- An error of the language is called with a long message, as the argument of another error;
then a class is constructed that a pattern permits, and a member is called with a template. -/
def literalMessages : SourceTree where
  source := "new AError(TypeError('ééééééééééééééééééééééééééééééé'));\n" ++
    "new HttpError('x');\ne.RangeError(`y`);"
  root := termOn 1 1 0 127 (.program [
    termOn 1 1 0 88 (.other "expression_statement" [termOn 1 1 0 87 (.construction
      (termOn 1 5 4 10 (.identifier "AError"))
      [termOn 1 12 11 86 (.call (termOn 1 12 11 20 (.identifier "TypeError"))
        [termOn 1 22 21 85 (.literal (.string "ééééééééééééééééééééééééééééééé"))])])]),
    termOn 2 1 89 108 (.other "expression_statement" [termOn 2 1 89 107 (.construction
      (termOn 2 5 93 102 (.identifier "HttpError"))
      [termOn 2 15 103 106 (.literal (.string "x"))])]),
    termOn 3 1 109 127 (.other "expression_statement" [termOn 3 1 109 126 (.call
      (termOn 3 1 109 121 (.member (termOn 3 1 109 110 (.identifier "e")) "RangeError"))
      [termOn 3 14 122 125 (.template [])])])])
  hasErrors := false

end Sample

/-- The inner call is reported with its message cut, the outer construction is not. The
permitted class is passed over, and the template is reported. -/
theorem NoLiteralErrorMessage.emit_register_literal_messages_sample :
    let value : JsonValue := ⟨.object [("allowedPatterns", .array [.string "^Http"])], by decide⟩
    let options : Options := ⟨[], ["^Http"], true⟩
    ∃ rule, Rule.create Pattern.engine "no-literal-error-message" (some value) = .ok rule ∧
      ((Linter.register [⟨rule, .error⟩]).emit Sample.literalMessages).map (fun found =>
          (found.line, found.data.text? "errorClass", found.data.text? "message")) =
        [(1, some "TypeError", some "éééééééééééééééééééééééééééééé..."),
          (3, some "RangeError", none)] ∧
      ∃ found : List (Node × Report), found.length = 2 ∧
        found.Pairwise (fun first second => first.1.id < second.1.id) ∧
        ∀ finding ∈ found, Objection Pattern.engine options finding.1 finding.2 := by
  intro value options
  have accepted : (Rule.create Pattern.engine "no-literal-error-message"
      (some value)).toOption.map (fun rule =>
        ((Linter.register [⟨rule, .error⟩]).emit Sample.literalMessages).map (fun found =>
          (found.line, found.data.text? "errorClass", found.data.text? "message"))) =
      some [(1, some "TypeError", some "éééééééééééééééééééééééééééééé..."),
        (3, some "RangeError", none)] := by
    decide +kernel
  cases created : Rule.create Pattern.engine "no-literal-error-message" (some value) with
  | error fault =>
    rw [created] at accepted
    cases accepted
  | ok rule =>
    rw [created] at accepted
    have shown := Option.some.inj accepted
    obtain ⟨_, read, found, reported, ordered, emitted⟩ :=
      @emit_register_literal_messages Pattern.engine _ _ created .error rfl
        Sample.literalMessages
    obtain rfl : options = _ := Except.ok.inj read
    have two := congrArg List.length shown
    dsimp only at two
    rw [emitted, List.length_map, List.length_map] at two
    exact ⟨rule, rfl, shown, found, two, ordered, fun finding member =>
      ((reported finding.1 finding.2).mp member).2⟩

end ErrorLint
