/-
This file says which rules have a say about the same throw. Four rules look at what is
thrown, each with questions of its own. The rule about literals speaks about literals,
objects and bare names; the three others speak about new objects of a named class and about
nothing else. So the first one and the others never speak about the same throw, and there are
operands about which none of them speaks. Where the rule about generic errors and the rule
about error classes both speak, the class is the generic one, whose name already ends as the
second rule wants it, and so the second one has nothing to mend.
-/

import ErrorLint.Proofs.Fix.Nesting
import ErrorLint.Proofs.Linter.Verdicts

namespace ErrorLint

/-! ### Three kinds of operands -/

namespace Node

/-- The operand is a literal, an object or a bare name. -/
def IsPlain (operand : Node) : Prop :=
  operand.isLiteralValue = true ∨ operand.shape = .object ∨ operand.shape = .identifier

/-- The operand is a call, a member access, a class or something unknown, or it has an
operator other than the minus sign. -/
def IsOpaque (operand : Node) : Prop :=
  operand.shape ∈ [.call, .member, .classDeclaration, .other] ∨
    ∃ operator argument, operand.form = .unary operator argument ∧ operator ≠ "-"

variable {operand : Node}

theorem IsPlain.shape_ne_construction (plain : operand.IsPlain) :
    operand.shape ≠ .construction := by
  intro constructs
  rcases plain with literal | isObject | isName
  · rw [shape_eq] at constructs
    rw [isLiteralValue] at literal
    cases form : operand.form with
    | construction callee arguments =>
      rw [form] at literal
      cases literal
    | _ =>
      rw [form] at constructs
      cases constructs
  · rw [isObject] at constructs
    cases constructs
  · rw [isName] at constructs
    cases constructs

/-- What is opaque is not plain. -/
theorem IsOpaque.not_isPlain (isOpaque : operand.IsOpaque) : ¬operand.IsPlain := by
  unfold IsOpaque at isOpaque
  unfold IsPlain isLiteralValue
  rw [shape_eq] at isOpaque ⊢
  cases form : operand.form with
  | unary operator argument =>
    simp only [form, Form.shape, Form.unary.injEq] at isOpaque ⊢
    rcases isOpaque with listed | ⟨_, _, ⟨rfl, rfl⟩, notMinus⟩
    · simp at listed
    · simp [notMinus]
  | call callee arguments | member owner property | classDeclaration name superclass body
  | other symbol children => simp [Form.shape]
  | _ => simp [form, Form.shape] at isOpaque

/-- Nor is it a new object. -/
theorem IsOpaque.shape_ne_construction (isOpaque : operand.IsOpaque) :
    operand.shape ≠ .construction := by
  intro constructs
  rcases isOpaque with listed | ⟨operator, argument, form, -⟩
  · rw [constructs] at listed
    simp at listed
  · rw [shape_eq, form] at constructs
    cases constructs

theorem shape_of_directConstructor? {callee : Node} {name : String}
    (constructs : operand.directConstructor? = some (callee, name)) :
    operand.shape = .construction := by
  obtain ⟨arguments, form, -⟩ := directConstructor?_eq_some constructs
  rw [shape_eq, form]
  rfl

end Node

/-! ### Who speaks about which operand -/

/-- About a throw only three rules speak on the way: one about plain operands, the other two
about new objects. -/
theorem Rule.Verdict.about_throw {rule : Rule} {tree : SourceTree} {memory : Memory}
    {node : Node} {report : Report} (verdict : Verdict tree memory node rule report)
    (throwing : node.shape = .throwing) :
    ∃ operand, node.thrown? = some operand ∧
      ((rule.id = .noThrowLiteral ∧ operand.IsPlain) ∨
        ((rule.id = .noGenericError ∨ rule.id = .requireCustomError) ∧
          operand.shape = .construction)) := by
  cases verdict with
  | throwsUndefined operand throws named =>
    refine ⟨operand, throws, Or.inl ⟨rfl, Or.inr (Or.inr ?_)⟩⟩
    rw [Node.shape_eq, Node.identifierName?_eq_some_iff.mp named]
    rfl
  | throwsLiteral operand throws literal => exact ⟨operand, throws, Or.inl ⟨rfl, Or.inl literal⟩⟩
  | throwsObject operand throws isObject =>
    exact ⟨operand, throws, Or.inl ⟨rfl, Or.inr (Or.inl isObject)⟩⟩
  | throwsUnknown operand throws isName =>
    exact ⟨operand, throws, Or.inl ⟨rfl, Or.inr (Or.inr isName)⟩⟩
  | throwsGeneric operand _ throws constructs | throwsNameable operand _ _ throws constructs =>
    exact ⟨operand, throws, Or.inr ⟨Or.inl rfl, Node.shape_of_directConstructor? constructs⟩⟩
  | throwsBase operand _ _ throws constructs | throwsUnmarked operand _ _ throws constructs =>
    exact ⟨operand, throws, Or.inr ⟨Or.inr rfl, Node.shape_of_directConstructor? constructs⟩⟩
  | declaresStray _ _ _ declares =>
    rw [Node.shape_eq, declares] at throwing
    cases throwing
  | passesLiteral _ _ _ checked | passesTemplate _ _ checked =>
    rcases shape_of_checkedClass? checked with shape | shape
    · rw [shape] at throwing
      cases throwing
    · rw [shape] at throwing
      cases throwing

/-- A throw that counts as a use of a message throws a new object. -/
theorem RequireHardcodedErrorMessage.Qualifies.exists_operand {options : Options}
    {tree : SourceTree} {node : Node} {use : Use} (qualifies : Qualifies options tree node use) :
    ∃ operand, node.thrown? = some operand ∧ operand.shape = .construction := by
  obtain ⟨operand, callee, argument, rest, throws, constructs, -⟩ := qualifies.throws
  refine ⟨operand, Node.thrown?_eq_some_iff.mpr throws, ?_⟩
  rw [Node.shape_eq, constructs]
  rfl

namespace Activation

variable {activation : Activation Rule} {tree : SourceTree} {node : Node}

/-- What a rule that speaks about a throw speaks about. -/
theorem exists_operand_of_findingsAt_ne_nil (throwing : node.shape = .throwing)
    (speaks : activation.findingsAt tree node ≠ []) :
    ∃ operand, node.thrown? = some operand ∧
      ((activation.rule.id = .noThrowLiteral ∧ operand.IsPlain) ∨
        ((activation.rule.id = .noGenericError ∨ activation.rule.id = .requireCustomError) ∧
          operand.shape = .construction)) := by
  obtain ⟨diagnostic, found⟩ := List.exists_mem_of_ne_nil _ speaks
  obtain ⟨memory, report, reported, -⟩ := exists_report_of_mem_findingsAt found
  exact (Rule.mem_reports_iff.mp reported).about_throw throwing

/-- If the rule about literals speaks about a throw, the operand is plain. -/
theorem exists_plain_operand (throwing : node.shape = .throwing)
    (literals : activation.rule.id = .noThrowLiteral)
    (speaks : activation.findingsAt tree node ≠ []) :
    ∃ operand, node.thrown? = some operand ∧ operand.IsPlain := by
  obtain ⟨operand, throws, ⟨-, plain⟩ | ⟨generic | custom, -⟩⟩ :=
    exists_operand_of_findingsAt_ne_nil throwing speaks
  · exact ⟨operand, throws, plain⟩
  · rw [literals] at generic
    cases generic
  · rw [literals] at custom
    cases custom

/-- The rules about classes are silent about plain operands. -/
theorem findingsAt_eq_nil_of_isPlain (throwing : node.shape = .throwing)
    (classes : activation.rule.id ≠ .noThrowLiteral) {operand : Node}
    (throws : node.thrown? = some operand) (plain : operand.IsPlain) :
    activation.findingsAt tree node = [] := by
  by_contra speaks
  obtain ⟨thrown, throwsIt, ⟨literals, -⟩ | ⟨-, constructs⟩⟩ :=
    exists_operand_of_findingsAt_ne_nil throwing speaks
  · exact classes literals
  · obtain rfl : thrown = operand := Option.some.inj (throwsIt.symm.trans throws)
    exact plain.shape_ne_construction constructs

/-- All rules are silent about opaque operands. -/
theorem findingsAt_eq_nil_of_isOpaque (throwing : node.shape = .throwing) {operand : Node}
    (throws : node.thrown? = some operand) (isOpaque : operand.IsOpaque) :
    activation.findingsAt tree node = [] := by
  by_contra speaks
  obtain ⟨thrown, throwsIt, about⟩ := exists_operand_of_findingsAt_ne_nil throwing speaks
  obtain rfl : thrown = operand := Option.some.inj (throwsIt.symm.trans throws)
  rcases about with ⟨-, plain⟩ | ⟨-, constructs⟩
  · exact isOpaque.not_isPlain plain
  · exact isOpaque.shape_ne_construction constructs

/-- If the rule about generic errors speaks about a throw, what is thrown is the generic
class itself. -/
theorem exists_constructs_error (generic : activation.rule.id = .noGenericError)
    (speaks : activation.findingsAt tree node ≠ []) :
    ∃ operand callee, node.thrown? = some operand ∧
      operand.directConstructor? = some (callee, "Error") := by
  obtain ⟨diagnostic, found⟩ := List.exists_mem_of_ne_nil _ speaks
  obtain ⟨memory, report, reported, -⟩ := exists_report_of_mem_findingsAt found
  obtain ⟨rule, severity⟩ := activation
  cases Rule.mem_reports_iff.mp reported with
  | throwsGeneric operand callee throws constructs =>
    exact ⟨operand, callee, throws, constructs⟩
  | throwsNameable operand callee category throws constructs =>
    exact ⟨operand, callee, throws, constructs⟩
  | _ => cases generic

/-- About a throw of the generic class the rule about error classes has no fix. -/
theorem fix_eq_none_of_constructs_error (custom : activation.rule.id = .requireCustomError)
    {operand callee : Node} (throws : node.thrown? = some operand)
    (constructs : operand.directConstructor? = some (callee, "Error"))
    {diagnostic : Diagnostic} (found : diagnostic ∈ activation.findingsAt tree node) :
    diagnostic.fix = none := by
  cases hasFix : diagnostic.fix with
  | none => rfl
  | some fix =>
    obtain ⟨thrown, report, throwsIt, proposal, -⟩ :=
      mends_of_mem_findingsAt found (Option.isSome_of_eq_some hasFix)
    obtain rfl : thrown = operand := Option.some.inj (throwsIt.symm.trans throws)
    rw [rule_of_mem_findingsAt found, Rule.kind_id, custom] at proposal
    cases proposal with
    | suffixes _ name constructs' unmarked =>
      rw [constructs] at constructs'
      cases constructs'
      exact absurd unmarked (by decide)

end Activation

/-! ### One throw, several rules -/

/-- Of several findings no two of which carry a fix, one carries a fix at most. -/
theorem length_filter_fix_le_one {diagnostics : List Diagnostic}
    (exclusive : diagnostics.Pairwise fun first second =>
      ¬(first.fix.isSome = true ∧ second.fix.isSome = true)) :
    (diagnostics.filter (·.fix.isSome)).length ≤ 1 := by
  have fixes : ∀ diagnostic ∈ diagnostics.filter (·.fix.isSome), diagnostic.fix.isSome = true :=
    fun diagnostic member => (List.mem_filter.mp member).2
  cases found : diagnostics.filter (·.fix.isSome) with
  | nil => exact Nat.zero_le _
  | cons first rest =>
    cases rest with
    | nil => exact Nat.le_refl _
    | cons second others =>
      have apart := exclusive.filter (·.fix.isSome)
      rw [found] at apart fixes
      refine absurd ⟨fixes first List.mem_cons_self, ?_⟩
        ((List.pairwise_cons.mp apart).1 second List.mem_cons_self)
      exact fixes second (List.mem_cons_of_mem _ List.mem_cons_self)

open RequireHardcodedErrorMessage in
/-- If no rule is active twice, at most one finding about a throw carries a fix; what the
rules say after the walk never does. If the rule about literals speaks about the throw, the
rules about classes do not, and the throw is no use of a message. About an opaque operand all
are silent. And if both rules about classes speak, at most the one about generic errors
brings a fix. -/
theorem Linter.findingsAt_throw_exclusive (entries : List (Activation Rule))
    (distinct : (register entries).ruleIds.Nodup) (tree : SourceTree) {node : Node}
    (throwing : node.shape = .throwing) :
    let linter := register entries
    (linter.emit tree = tree.nodes.flatMap (linter.findingsAt tree) ++
        linter.activations.flatMap (·.closingFindings tree) ∧
      ∀ diagnostic ∈ linter.activations.flatMap (·.closingFindings tree),
        diagnostic.fix = none) ∧
    ((linter.findingsAt tree node).filter (·.fix.isSome)).length ≤ 1 ∧
    (∀ literals ∈ linter.activations, literals.rule.id = .noThrowLiteral →
      literals.findingsAt tree node ≠ [] →
        (∀ other ∈ linter.activations,
          other.rule.id = .noGenericError ∨ other.rule.id = .requireCustomError →
            other.findingsAt tree node = []) ∧
        ∀ options use, ¬Qualifies options tree node use) ∧
    (∀ operand, node.thrown? = some operand → operand.IsOpaque →
      linter.findingsAt tree node = [] ∧ ∀ options use, ¬Qualifies options tree node use) ∧
    ∀ generic ∈ linter.activations, ∀ custom ∈ linter.activations,
      generic.rule.id = .noGenericError → custom.rule.id = .requireCustomError →
        generic.findingsAt tree node ≠ [] →
          ∀ diagnostic ∈ custom.findingsAt tree node, diagnostic.fix = none := by
  intro linter
  refine ⟨⟨(isBuilt_register entries).emit_eq tree, fun diagnostic closing =>
    fix_of_mem_closingFindings closing⟩,
    length_filter_fix_le_one (pairwise_findingsAt distinct node),
    ?_, ?_, ?_⟩
  · intro literals _ isLiterals speaks
    obtain ⟨operand, throws, plain⟩ :=
      Activation.exists_plain_operand throwing isLiterals speaks
    refine ⟨fun other _ classes => ?_, fun options use qualifies => ?_⟩
    · refine Activation.findingsAt_eq_nil_of_isPlain throwing ?_ throws plain
      rcases classes with generic | custom
      · simp [generic]
      · simp [custom]
    · obtain ⟨thrown, throwsIt, constructs⟩ := qualifies.exists_operand
      obtain rfl : thrown = operand := Option.some.inj (throwsIt.symm.trans throws)
      exact plain.shape_ne_construction constructs
  · intro operand throws isOpaque
    refine ⟨List.flatMap_eq_nil_iff.mpr fun activation _ =>
      Activation.findingsAt_eq_nil_of_isOpaque throwing throws isOpaque,
      fun options use qualifies => ?_⟩
    obtain ⟨thrown, throwsIt, constructs⟩ := qualifies.exists_operand
    obtain rfl : thrown = operand := Option.some.inj (throwsIt.symm.trans throws)
    exact isOpaque.shape_ne_construction constructs
  · intro generic _ custom _ isGeneric isCustom genericSpeaks diagnostic found
    obtain ⟨operand, callee, throws, constructs⟩ :=
      Activation.exists_constructs_error isGeneric genericSpeaks
    exact Activation.fix_eq_none_of_constructs_error isCustom throws constructs found

namespace Sample

/-- The throw of a generic error with a message. -/
def genericThrow : Term :=
  termOn 1 1 0 21 (.throwing (some (termOn 1 7 6 20 (.construction
    (termOn 1 11 10 15 (.identifier "Error")) [termOn 1 17 16 19 (.literal (.string "x"))]))))

def genericSource : SourceTree where
  source := "throw new Error('x');"
  root := termOn 1 1 0 21 (.program [genericThrow])
  hasErrors := false

/-- The three rules that can speak about a throw on the way. -/
def throwRules : List (Activation Rule) :=
  [⟨.noThrowLiteral .defaults, .error⟩, ⟨.noGenericError .defaults, .error⟩,
    ⟨.requireCustomError .defaults, .warn⟩]

end Sample

/-- Both rules about classes speak about the throw of a generic error, and one of them brings
a fix. -/
theorem Linter.findingsAt_throw_exclusive_sample :
    let linter := register Sample.throwRules
    let node : Node := ⟨1, Sample.genericThrow⟩
    let custom : Activation Rule := ⟨.requireCustomError .defaults, .warn⟩
    linter.ruleIds.Nodup ∧ node.shape = .throwing ∧
      (linter.findingsAt Sample.genericSource node).map (fun finding =>
          (finding.rule, finding.fix.map (·.replacement))) =
        [(.noGenericError, some "CustomError"), (.requireCustomError, none)] ∧
      ((linter.findingsAt Sample.genericSource node).filter (·.fix.isSome)).length ≤ 1 ∧
      ∀ diagnostic ∈ custom.findingsAt Sample.genericSource node, diagnostic.fix = none := by
  intro linter node custom
  have distinct : linter.ruleIds.Nodup := by decide
  have throwing : node.shape = .throwing := rfl
  obtain ⟨-, single, -, -, generic⟩ :=
    findingsAt_throw_exclusive Sample.throwRules distinct Sample.genericSource throwing
  refine ⟨distinct, throwing, by decide +kernel, single, ?_⟩
  refine generic ⟨.noGenericError .defaults, .error⟩ ?_ custom ?_ rfl rfl ?_
  · exact List.mem_cons_of_mem _ List.mem_cons_self
  · exact List.mem_cons_of_mem _ (List.mem_cons_of_mem _ List.mem_cons_self)
  · decide +kernel

end ErrorLint
