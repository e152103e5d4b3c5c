/-
This file says once what the rules can say about a node. A rule comes to a report by a chain
of questions, and every fact about reports (where they stand, which template they fill,
which of them bring a fix) would have to go through the chains again. Here the chains are
taken apart: there is one verdict for each kind of report, with the answers that lead to it,
and a rule reports exactly its verdicts.
-/

import ErrorLint.Proofs.Tree.Subtree
import ErrorLint.Rule.Basic
import Mathlib.Data.Option.Basic

namespace ErrorLint

namespace Rule

/-- What a rule has to say about a node, and why. -/
inductive Verdict (tree : SourceTree) (memory : Memory) (node : Node) : Rule → Report → Prop where
  | throwsUndefined {options : NoThrowLiteral.Options} (operand : Node)
    (throws : node.thrown? = some operand)
    (named : operand.identifierName? = some "undefined") :
    Verdict tree memory node (.noThrowLiteral options) (Report.plain operand.place "undef")
  | throwsLiteral {options : NoThrowLiteral.Options} (operand : Node)
    (throws : node.thrown? = some operand) (literal : operand.isLiteralValue = true) :
    Verdict tree memory node (.noThrowLiteral options)
      ((Report.plain operand.place "literal").withFix (NoThrowLiteral.wrap tree operand))
  | throwsObject {options : NoThrowLiteral.Options} (operand : Node)
    (throws : node.thrown? = some operand) (shape : operand.shape = .object)
    (forbidden : options.allowThrowingObjects = false) :
    Verdict tree memory node (.noThrowLiteral options) (Report.plain operand.place "object")
  | throwsUnknown {options : NoThrowLiteral.Options} (operand : Node)
    (throws : node.thrown? = some operand) (shape : operand.shape = .identifier)
    (named : operand.identifierName? ≠ some "undefined")
    (forbidden : options.allowThrowingUnknown = false) :
    Verdict tree memory node (.noThrowLiteral options) (Report.plain operand.place "object")
  | throwsGeneric {options : NoGenericError.Options} (operand callee : Node)
    (throws : node.thrown? = some operand)
    (constructs : operand.directConstructor? = some (callee, "Error"))
    (forbidden : options.allowedErrorNames.contains "Error" = false)
    (unsuggested : Node.suggestion? operand.firstArgument? = none) :
    Verdict tree memory node (.noGenericError options)
      (Report.plain operand.place "noGenericError")
  | throwsNameable {options : NoGenericError.Options} (operand callee : Node) (category : Category)
    (throws : node.thrown? = some operand)
    (constructs : operand.directConstructor? = some (callee, "Error"))
    (forbidden : options.allowedErrorNames.contains "Error" = false)
    (suggested : Node.suggestion? operand.firstArgument? = some category) :
    Verdict tree memory node (.noGenericError options)
      (((Report.plain operand.place "noGenericErrorWithSuggestion").withData "suggestion"
        (.text category.className)).withFix ⟨callee.span, category.className⟩)
  | throwsBase {options : RequireCustomError.Options} (operand callee : Node) (name : String)
    (throws : node.thrown? = some operand)
    (constructs : operand.directConstructor? = some (callee, name))
    (base : options.isBaseError name = true) :
    Verdict tree memory node (.requireCustomError options)
      (Report.plain operand.place "requireCustomError")
  | throwsUnmarked {options : RequireCustomError.Options} (operand callee : Node) (name : String)
    (throws : node.thrown? = some operand)
    (constructs : operand.directConstructor? = some (callee, name))
    (derived : options.isBaseError name = false) (required : options.requireErrorSuffix = true)
    (unmarked : ErrorName.isErrorType name = false)
    (own : memory.imported.contains name = false) :
    Verdict tree memory node (.requireCustomError options)
      ((Report.plain callee.place "requireErrorSuffix").withFix ⟨callee.span, name ++ "Error"⟩)
  | declaresStray {options : RequireCustomError.Options} (name : Node)
    (superclass body : Option Node)
    (declares : node.form = .classDeclaration (some name) superclass body)
    (marked : name.identifierName?.any ErrorName.isErrorType = true)
    (stray : superclass.any (RequireCustomError.isErrorClass options) = false) :
    Verdict tree memory node (.requireCustomError options) (Report.plain name.place "extendError")
  | passesLiteral {settings : NoLiteralErrorMessage.Settings} (name message : String)
    (argument : Node) (checked : NoLiteralErrorMessage.checkedClass? node = some name)
    (forbidden : settings.allows name = false) (first : node.firstArgument? = some argument)
    (literal : argument.stringValue? = some message) :
    Verdict tree memory node (.noLiteralErrorMessage settings)
      (((Report.plain argument.place "noLiteralMessage").withData "message"
        (.text (NoLiteralErrorMessage.preview message))).withData "errorClass" (.text name))
  | passesTemplate {settings : NoLiteralErrorMessage.Settings} (name : String) (argument : Node)
    (checked : NoLiteralErrorMessage.checkedClass? node = some name)
    (forbidden : settings.allows name = false) (first : node.firstArgument? = some argument)
    (template : argument.shape = .template) (required : settings.checkTemplateLiterals = true) :
    Verdict tree memory node (.noLiteralErrorMessage settings)
      ((Report.plain argument.place "noTemplateLiteralMessage").withData "errorClass"
        (.text name))

variable {tree : SourceTree} {memory : Memory} {node : Node} {report : Report}

/-! ### From reports to verdicts -/

theorem verdict_noThrowLiteral {options : NoThrowLiteral.Options}
    (member : report ∈ NoThrowLiteral.reports options tree node) :
    Verdict tree memory node (.noThrowLiteral options) report := by
  rw [NoThrowLiteral.reports, Option.mem_toList] at member
  obtain ⟨operand, throws, reported⟩ := Option.bind_eq_some_iff.mp member
  unfold NoThrowLiteral.reportThrown at reported
  split at reported
  · rename_i named
    cases reported
    exact .throwsUndefined operand throws named
  · rename_i named
    split at reported
    · rename_i literal
      cases reported
      exact .throwsLiteral operand throws literal
    · split at reported
      · rename_i shape
        split at reported
        · cases reported
        · rename_i forbidden
          cases reported
          rw [Bool.or_eq_true, not_or, Bool.not_eq_true] at forbidden
          exact .throwsObject operand throws shape forbidden.1
      · rename_i shape
        split at reported
        · cases reported
        · rename_i forbidden
          cases reported
          exact .throwsUnknown operand throws shape named (eq_false_of_ne_true forbidden)
      · cases reported

theorem verdict_noGenericError {options : NoGenericError.Options}
    (member : report ∈ NoGenericError.reports options node) :
    Verdict tree memory node (.noGenericError options) report := by
  unfold NoGenericError.reports at member
  split at member
  · cases member
  · rename_i forbidden
    have forbidden := eq_false_of_ne_true forbidden
    split at member
    · cases member
    · rename_i operand throws
      split at member
      · rename_i callee constructs
        obtain rfl := List.mem_singleton.mp member
        unfold NoGenericError.reportGeneric
        split
        · rename_i category suggested
          exact .throwsNameable operand callee category throws constructs forbidden suggested
        · rename_i unsuggested
          exact .throwsGeneric operand callee throws constructs forbidden unsuggested
      · cases member

theorem verdict_requireCustomError {options : RequireCustomError.Options}
    (member : report ∈ RequireCustomError.reports options memory.imported node) :
    Verdict tree memory node (.requireCustomError options) report := by
  unfold RequireCustomError.reports at member
  split at member
  · rw [Option.mem_toList] at member
    obtain ⟨operand, throws, reported⟩ := Option.bind_eq_some_iff.mp member
    obtain ⟨⟨callee, name⟩, constructs, reported⟩ := Option.bind_eq_some_iff.mp reported
    dsimp only at reported
    split at reported
    · rename_i base
      cases reported
      exact .throwsBase operand callee name throws constructs base
    · rename_i derived
      obtain ⟨_, guarded, reported⟩ := Option.bind_eq_some_iff.mp reported
      cases reported
      unfold guard at guarded
      split at guarded
      · rename_i holds
        simp only [Bool.and_eq_true, Bool.not_eq_true'] at holds
        obtain ⟨⟨required, unmarked⟩, own⟩ := holds
        exact .throwsUnmarked operand callee name throws constructs
          (eq_false_of_ne_true derived) required unmarked own
      · cases guarded
  · rw [Option.mem_toList] at member
    unfold RequireCustomError.reportClass at member
    split at member
    · rename_i name superclass body declares
      split at member
      · rename_i holds
        cases member
        rw [Bool.and_eq_true, Bool.not_eq_true'] at holds
        exact .declaresStray name superclass body declares holds.1 holds.2
      · cases member
    · cases member
  · cases member

theorem verdict_noLiteralErrorMessage {settings : NoLiteralErrorMessage.Settings}
    (member : report ∈ NoLiteralErrorMessage.reports settings node) :
    Verdict tree memory node (.noLiteralErrorMessage settings) report := by
  unfold NoLiteralErrorMessage.reports at member
  split at member
  · cases member
  · rename_i name checked
    rw [Option.filter_eq_some_iff, Bool.not_eq_true'] at checked
    obtain ⟨checked, forbidden⟩ := checked
    rw [Option.mem_toList] at member
    obtain ⟨argument, first, reported⟩ := Option.bind_eq_some_iff.mp member
    unfold NoLiteralErrorMessage.reportArgument at reported
    split at reported
    · rename_i message literal
      cases reported
      exact .passesLiteral name message argument checked forbidden first literal
    · split at reported
      · rename_i holds
        cases reported
        rw [Bool.and_eq_true, decide_eq_true_eq] at holds
        exact .passesTemplate name argument checked forbidden first holds.2 holds.1
      · cases reported

/-! ### From verdicts to reports -/

theorem Verdict.mem_reports {rule : Rule} (verdict : Verdict tree memory node rule report) :
    report ∈ rule.reports tree memory node := by
  cases verdict with
  | throwsUndefined operand throws named =>
    simp [reports, NoThrowLiteral.reports, throws, NoThrowLiteral.reportThrown, named]
  | throwsLiteral operand throws literal =>
    have unnamed : operand.identifierName? = none := by
      unfold Node.identifierName?
      split
      · rename_i form
        rw [Node.isLiteralValue, form] at literal
        cases literal
      · rfl
    simp [reports, NoThrowLiteral.reports, throws, NoThrowLiteral.reportThrown, unnamed, literal]
  | throwsObject operand throws shape forbidden =>
    rw [Node.shape_eq] at shape
    cases form : operand.form with
    | object properties =>
      simp [reports, NoThrowLiteral.reports, throws, NoThrowLiteral.reportThrown,
        Node.identifierName?, Node.isLiteralValue, Node.isErrorConstruction,
        Node.directConstructor?, Node.shape_eq, form, Form.shape, forbidden]
    | _ =>
      rw [form] at shape
      cases shape
  | throwsUnknown operand throws shape named forbidden =>
    have notLiteral : operand.isLiteralValue = false := by
      rw [Node.shape_eq] at shape
      rw [Node.isLiteralValue]
      revert shape
      cases operand.form with
      | identifier name => exact fun _ => rfl
      | _ =>
        intro impossible
        cases impossible
    simp [reports, NoThrowLiteral.reports, throws, NoThrowLiteral.reportThrown, named, notLiteral,
      shape, forbidden]
  | throwsGeneric operand callee throws constructs forbidden unsuggested =>
    simp only [reports, NoGenericError.reports, forbidden, throws, constructs,
      NoGenericError.reportGeneric, unsuggested]
    exact List.mem_singleton_self _
  | throwsNameable operand callee category throws constructs forbidden suggested =>
    simp only [reports, NoGenericError.reports, forbidden, throws, constructs,
      NoGenericError.reportGeneric, suggested]
    exact List.mem_singleton_self _
  | throwsBase operand callee name throws constructs base =>
    simp [reports, RequireCustomError.reports, Node.shape_of_thrown? throws,
      RequireCustomError.reportThrow, throws, constructs, base]
  | throwsUnmarked operand callee name throws constructs derived required unmarked own =>
    simp [reports, RequireCustomError.reports, Node.shape_of_thrown? throws,
      RequireCustomError.reportThrow, throws, constructs, derived, required, unmarked, own, guard]
  | declaresStray name superclass body declares marked stray =>
    simp [reports, RequireCustomError.reports, Node.shape_eq, declares, Form.shape,
      RequireCustomError.reportClass, marked, stray]
  | passesLiteral name message argument checked forbidden first literal =>
    simp [reports, NoLiteralErrorMessage.reports, checked, Option.filter, forbidden, first,
      NoLiteralErrorMessage.reportArgument, literal]
  | passesTemplate name argument checked forbidden first template required =>
    have notText : argument.stringValue? = none := by
      rw [Node.shape_eq] at template
      unfold Node.stringValue?
      split
      · rename_i form
        rw [form] at template
        cases template
      · rfl
    simp [reports, NoLiteralErrorMessage.reports, checked, Option.filter, forbidden, first,
      NoLiteralErrorMessage.reportArgument, notText, template, required]

/-- A rule reports about a node exactly what its verdicts are. -/
theorem mem_reports_iff {rule : Rule} :
    report ∈ rule.reports tree memory node ↔ Verdict tree memory node rule report := by
  refine ⟨fun member => ?_, Verdict.mem_reports⟩
  cases rule with
  | noThrowLiteral options => exact verdict_noThrowLiteral member
  | noGenericError options => exact verdict_noGenericError member
  | requireCustomError options => exact verdict_requireCustomError member
  | noLiteralErrorMessage settings => exact verdict_noLiteralErrorMessage member
  | requireHardcodedErrorMessage options => cases member

end Rule

end ErrorLint
