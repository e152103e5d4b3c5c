/-
This file says what the rule about error classes reports. Three things are wrong, and each
can be seen in the tree without any walk: a base error is thrown directly; a class is thrown
that is not named like an error, and no import in front of the throw introduces the name; a
class that is named like an error does not extend one. The rule collects the imports on its
way, so it knows at every throw exactly the names that are imported in front of it.
-/

import ErrorLint.Pattern.Matching
import ErrorLint.Proofs.Linter.Verdicts

namespace ErrorLint

/-- What is not an import introduces no names. -/
theorem ImportedNames.record_of_shape_ne {node : Node} (shape : node.shape ≠ .importDeclaration)
    (imported : ImportedNames) : imported.record node = imported := by
  unfold record
  split
  · rename_i imports
    rw [Node.shape_eq, imports] at shape
    exact absurd rfl shape
  · rfl

namespace RequireCustomError

/-! ### What is wrong with a node -/

/-- A class that has this superclass is an error, as far as one can tell. -/
def ExtendsError (options : Options) (superclass : Node) : Prop :=
  (∃ name, superclass.form = .identifier name ∧
      (name ∈ options.allowedBaseErrors ∨ "Error".toList <:+ name.toList)) ∨
    ∃ owner property, superclass.form = .member owner property

/-- What is wrong with a node of a tree, and what is to be said about it. -/
inductive Objection (options : Options) (tree : SourceTree) (node : Node) : Report → Prop where
  | base (operand callee : Node) (arguments : List Node) (name : String)
    (throws : node.form = .throwing (some operand))
    (constructs : operand.form = .construction callee arguments)
    (named : callee.form = .identifier name)
    (isBase : name ∈ options.allowedBaseErrors) :
    Objection options tree node
      ⟨operand.place, "requireCustomError", MessageData.empty, none⟩
  | unmarked (operand callee : Node) (arguments : List Node) (name : String)
    (throws : node.form = .throwing (some operand))
    (constructs : operand.form = .construction callee arguments)
    (named : callee.form = .identifier name)
    (notBase : name ∉ options.allowedBaseErrors)
    (required : options.requireErrorSuffix = true)
    (noSuffix : ¬"Error".toList <:+ name.toList)
    (notImported : ∀ other ∈ tree.nodes, other.id < node.id → ¬other.Imports name) :
    Objection options tree node
      ⟨callee.place, "requireErrorSuffix", MessageData.empty,
        some ⟨callee.span, name ++ "Error"⟩⟩
  | stray (identifier : Node) (name : String) (superclass body : Option Node)
    (declares : node.form = .classDeclaration (some identifier) superclass body)
    (named : identifier.form = .identifier name)
    (suffix : "Error".toList <:+ name.toList)
    (extendsNone : ∀ parent ∈ superclass, ¬ExtendsError options parent) :
    Objection options tree node
      ⟨identifier.place, "extendError", MessageData.empty, none⟩

section

variable {options : Options} {tree : SourceTree} {node : Node} {report : Report}

theorem isBaseError_iff {name : String} :
    options.isBaseError name = true ↔ name ∈ options.allowedBaseErrors :=
  List.contains_iff_mem

theorem isErrorClass_iff {superclass : Node} :
    isErrorClass options superclass = true ↔ ExtendsError options superclass := by
  unfold isErrorClass ExtendsError
  split
  · rename_i name form
    simp [form, isBaseError_iff, ErrorName.isErrorType_iff]
  · rename_i owner property form
    simp [form]
  · rename_i notName notMember
    refine iff_of_false Bool.false_ne_true ?_
    rintro (⟨name, form, -⟩ | ⟨owner, property, form⟩)
    · exact notName name form
    · exact notMember owner property form

/-! ### What the rule remembers -/

/-- After some nodes the rule remembers the names that they import. -/
theorem imported_memoryOf (nodes : List Node) :
    (RuleKind.memoryOf (Rule.requireCustomError options) nodes).imported =
      ImportedNames.ofNodes nodes := by
  induction nodes using List.reverseRecOn with
  | nil => rfl
  | append_singleton nodes node inductionHypothesis =>
    rw [RuleKind.memoryOf_append_singleton, ImportedNames.ofNodes_append_singleton,
      ← inductionHypothesis]
    split
    · rfl
    · rename_i unwanted
      have shape : node.shape ≠ .importDeclaration := by
        intro imports
        exact unwanted (by rw [RuleKind.wants, imports]; rfl)
      exact (ImportedNames.record_of_shape_ne shape _).symm

/-- A name is known at a node if a node with a smaller number imports it. -/
theorem contains_memoryAt_eq_false_iff {name : String} :
    ((Rule.requireCustomError options).memoryAt tree node).imported.contains name = false ↔
      ∀ other ∈ tree.nodes, other.id < node.id → ¬other.Imports name := by
  rw [Rule.memoryAt, imported_memoryOf, ← Bool.not_eq_true, ImportedNames.contains_ofNodes]
  simp only [SourceTree.mem_take_nodes, not_exists, not_and, and_imp]

/-! ### What the rule reports -/

/-- The verdicts of the rule are what is wrong with the nodes. -/
theorem verdict_iff_objection :
    Rule.Verdict tree ((Rule.requireCustomError options).memoryAt tree node) node
        (.requireCustomError options) report ↔
      Objection options tree node report := by
  constructor
  · intro verdict
    cases verdict with
    | throwsBase operand callee name throws constructs base =>
      obtain ⟨arguments, constructs, named⟩ := Node.directConstructor?_eq_some constructs
      exact .base operand callee arguments name (Node.thrown?_eq_some_iff.mp throws) constructs
        named (isBaseError_iff.mp base)
    | throwsUnmarked operand callee name throws constructs derived required unmarked own =>
      obtain ⟨arguments, constructs, named⟩ := Node.directConstructor?_eq_some constructs
      rw [← Bool.not_eq_true, isBaseError_iff] at derived
      rw [← Bool.not_eq_true, ErrorName.isErrorType_iff] at unmarked
      exact .unmarked operand callee arguments name (Node.thrown?_eq_some_iff.mp throws) constructs
        named derived required unmarked (contains_memoryAt_eq_false_iff.mp own)
    | declaresStray identifier superclass body declares marked stray =>
      obtain ⟨name, named, suffix⟩ := (Option.any_eq_true _ _).mp marked
      refine .stray identifier name superclass body declares
        (Node.identifierName?_eq_some_iff.mp named) (ErrorName.isErrorType_iff.mp suffix) ?_
      intro parent isParent extendsError
      rw [← Bool.not_eq_true] at stray
      exact stray ((Option.any_eq_true _ _).mpr
        ⟨parent, isParent, isErrorClass_iff.mpr extendsError⟩)
  · intro objection
    cases objection with
    | base operand callee arguments name throws constructs named isBase =>
      exact .throwsBase operand callee name (Node.thrown?_eq_some_iff.mpr throws)
        (Node.directConstructor?_eq_some_iff.mpr ⟨arguments, constructs, named⟩)
        (isBaseError_iff.mpr isBase)
    | unmarked operand callee arguments name throws constructs named notBase required noSuffix
        notImported =>
      rw [← isBaseError_iff, Bool.not_eq_true] at notBase
      rw [← ErrorName.isErrorType_iff, Bool.not_eq_true] at noSuffix
      exact .throwsUnmarked operand callee name (Node.thrown?_eq_some_iff.mpr throws)
        (Node.directConstructor?_eq_some_iff.mpr ⟨arguments, constructs, named⟩) notBase required
        noSuffix (contains_memoryAt_eq_false_iff.mpr notImported)
    | stray identifier name superclass body declares named suffix extendsNone =>
      refine .declaresStray identifier superclass body declares
        ((Option.any_eq_true _ _).mpr ⟨name, Node.identifierName?_eq_some_iff.mpr named,
          ErrorName.isErrorType_iff.mpr suffix⟩) ?_
      rw [← Bool.not_eq_true, Option.any_eq_true]
      rintro ⟨parent, isParent, extendsError⟩
      exact extendsNone parent isParent (isErrorClass_iff.mp extendsError)

end

/-- A rule that is created has the options that its value is read to. -/
theorem exists_options_of_create {engine : PatternEngine} {value : Option JsonValue} {rule : Rule}
    (created : Rule.create engine "require-custom-error" value = .ok rule) :
    ∃ options, Rule.readOptions .requireCustomError Options.read Options.defaults value =
        .ok options ∧ rule = .requireCustomError options := by
  have activated := (Rule.create_name engine .requireCustomError value).symm.trans created
  obtain ⟨options, read, rfl⟩ := map_eq_ok_iff.mp activated
  exact ⟨options, read, rfl⟩

/-- For all options that are accepted, the findings of the rule are what is wrong with the
nodes of the tree and nothing else: one finding for each node with which something is wrong,
in the order of the nodes. -/
theorem emit_register_objections {engine : PatternEngine} {value : Option JsonValue} {rule : Rule}
    (created : Rule.create engine "require-custom-error" value = .ok rule)
    {severity : Severity} (enabled : severity.isEnabled = true) (tree : SourceTree) :
    ∃ options, Rule.readOptions .requireCustomError Options.read Options.defaults value =
        .ok options ∧
      ∃ found : List (Node × Report),
        (∀ node report, (node, report) ∈ found ↔
          node ∈ tree.nodes ∧ Objection options tree node report) ∧
        found.Pairwise (fun first second => first.1.id < second.1.id) ∧
        (Linter.register [⟨rule, severity⟩]).emit tree = found.map fun finding =>
          Diagnostic.ofReport .requireCustomError severity finding.2 := by
  obtain ⟨options, read, rfl⟩ := exists_options_of_create created
  refine ⟨options, read, (Rule.requireCustomError options).verdicts tree, ?_,
    Rule.pairwise_verdicts _ tree, ?_⟩
  · intro node report
    rw [Rule.mem_verdicts, verdict_iff_objection]
  · have active : Activation.isEnabled ⟨Rule.requireCustomError options, severity⟩ = true := enabled
    exact Linter.emit_register_verdicts active tree fun _ => rfl

end RequireCustomError

namespace Sample

/-- A class is thrown before and after it is imported, a base error is thrown, and an error
class extends something else. -/
def strayClasses : SourceTree where
  source := "throw new A('x');\nimport A from 'a';\nthrow new A('x');\n" ++
    "throw new B('y');\nclass CError extends D {}"
  root := termOn 1 1 0 98 (.program [
    throwOn 1 0 "A" "x",
    termOn 2 1 18 36 (.importDeclaration [⟨.default, "A"⟩] "a"),
    throwOn 3 37 "A" "x",
    throwOn 4 55 "B" "y",
    termOn 5 1 73 98 (.classDeclaration (some (termOn 5 7 79 85 (.identifier "CError")))
      (some (termOn 5 22 94 95 (.identifier "D"))) none)])
  hasErrors := false

end Sample

/-- The throw before the import is reported with a fix, the one after it is not. The base
error and the class are reported without a fix. -/
theorem RequireCustomError.emit_register_objections_sample :
    let value : JsonValue := ⟨.object [("allowedBaseErrors", .array [.string "B"])], by decide⟩
    let rule : Rule := .requireCustomError ⟨["B"], true⟩
    Rule.create Pattern.engine "require-custom-error" (some value) = .ok rule ∧
      ((Linter.register [⟨rule, .warn⟩]).emit Sample.strayClasses).map (fun found =>
          (found.line, found.messageId, found.fix.map (·.replacement))) =
        [(1, "requireErrorSuffix", some "AError"), (4, "requireCustomError", none),
          (5, "extendError", none)] ∧
      ∃ found : List (Node × Report), found.length = 3 ∧
        found.Pairwise (fun first second => first.1.id < second.1.id) ∧
        ∀ finding ∈ found,
          Objection ⟨["B"], true⟩ Sample.strayClasses finding.1 finding.2 := by
  intro value rule
  have created : Rule.create Pattern.engine "require-custom-error" (some value) = .ok rule :=
    rfl
  have shown : ((Linter.register [⟨rule, .warn⟩]).emit Sample.strayClasses).map (fun found =>
      (found.line, found.messageId, found.fix.map (·.replacement))) =
        [(1, "requireErrorSuffix", some "AError"), (4, "requireCustomError", none),
          (5, "extendError", none)] := by
    decide +kernel
  obtain ⟨options, read, found, reported, ordered, emitted⟩ :=
    @emit_register_objections _ _ _ created .warn rfl Sample.strayClasses
  obtain rfl : options = ⟨["B"], true⟩ := (Except.ok.inj read).symm
  have three := congrArg List.length shown
  rw [emitted, List.length_map, List.length_map] at three
  exact ⟨created, shown, found, three, ordered, fun finding member =>
    ((reported finding.1 finding.2).mp member).2⟩

end ErrorLint
