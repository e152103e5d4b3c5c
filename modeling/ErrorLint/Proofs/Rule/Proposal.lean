/-
This file says once and for all which fixes the rules propose. Three of the five rules
have one: a thrown literal is wrapped into a generic error, a generic error is renamed
to what its message suggests, and a thrown class gets the ending of an error. All three
are about the operand of a throw, and what the operand must be for one of them rules
out the other two.
-/

import ErrorLint.Linter.Basic
import ErrorLint.Proofs.Rule.Verdict

namespace ErrorLint

/-- The reports with a fix that the rules make about the operand of a throw. -/
inductive Proposal (tree : SourceTree) (operand : Node) : RuleId → Report → Prop where
  | wraps (literal : operand.isLiteralValue = true) :
    Proposal tree operand .noThrowLiteral
      ((Report.plain operand.place "literal").withFix (NoThrowLiteral.wrap tree operand))
  | renames (callee : Node) (category : Category)
    (constructs : operand.directConstructor? = some (callee, "Error"))
    (suggested : Node.suggestion? operand.firstArgument? = some category) :
    Proposal tree operand .noGenericError
      (((Report.plain operand.place "noGenericErrorWithSuggestion").withData "suggestion"
        (.text category.className)).withFix ⟨callee.span, category.className⟩)
  | suffixes (callee : Node) (name : String)
    (constructs : operand.directConstructor? = some (callee, name))
    (unmarked : ErrorName.isErrorType name = false) :
    Proposal tree operand .requireCustomError
      ((Report.plain callee.place "requireErrorSuffix").withFix ⟨callee.span, name ++ "Error"⟩)

/-! ### Where fixes come from -/

namespace Rule

/-- A rule proposes a fix only for a throw, and only one of the three. -/
theorem proposal_of_mem_reports {rule : Rule} {tree : SourceTree} {memory : Memory} {node : Node}
    {report : Report} (member : report ∈ rule.reports tree memory node)
    (hasFix : report.fix.isSome = true) :
    ∃ operand, node.thrown? = some operand ∧ Proposal tree operand rule.id report := by
  -- Every other verdict is without a fix.
  cases mem_reports_iff.mp member with
  | throwsLiteral operand throws literal => exact ⟨operand, throws, .wraps literal⟩
  | throwsNameable operand callee category throws constructs _ suggested =>
    exact ⟨operand, throws, .renames callee category constructs suggested⟩
  | throwsUnmarked operand callee name throws constructs _ _ unmarked _ =>
    exact ⟨operand, throws, .suffixes callee name constructs unmarked⟩
  | _ => cases hasFix

/-- After the walk nothing is fixed. -/
theorem fix_eq_none_of_mem_closingReports {rule : Rule} {memory : Memory} {report : Report}
    (member : report ∈ rule.closingReports memory) : report.fix = none := by
  unfold closingReports at member
  split at member
  · obtain ⟨group, -, inGroup⟩ := List.mem_flatMap.mp member
    obtain ⟨place, -, rfl⟩ := List.mem_map.mp inGroup
    rfl
  · cases member

/-- About one node a rule says one thing at most. -/
theorem length_reports_le_one (rule : Rule) (tree : SourceTree) (memory : Memory) (node : Node) :
    (rule.reports tree memory node).length ≤ 1 := by
  cases rule with
  | noThrowLiteral options => exact Option.length_toList_le
  | noGenericError options =>
    simp only [reports, NoGenericError.reports]
    split
    · exact Nat.zero_le _
    · split
      · exact Nat.zero_le _
      · split
        · exact Nat.le_refl _
        · exact Nat.zero_le _
  | requireCustomError options =>
    simp only [reports, RequireCustomError.reports]
    split
    · exact Option.length_toList_le
    · exact Option.length_toList_le
    · exact Nat.zero_le _
  | noLiteralErrorMessage settings =>
    simp only [reports, NoLiteralErrorMessage.reports]
    split
    · exact Nat.zero_le _
    · exact Option.length_toList_le
  | requireHardcodedErrorMessage options => exact Nat.zero_le _

end Rule

/-- A finding mends a throw: it is one of the three reports about its operand. -/
def Diagnostic.Mends (tree : SourceTree) (node : Node) (diagnostic : Diagnostic) : Prop :=
  ∃ operand report, node.thrown? = some operand ∧ Proposal tree operand diagnostic.rule report ∧
    diagnostic.messageId = report.messageId ∧ diagnostic.fix = report.fix

theorem Activation.mends_of_mem_reports {activation : Activation Rule} {tree : SourceTree}
    {memory : Memory} {node : Node} {report : Report}
    (member : report ∈ activation.rule.reports tree memory node)
    (hasFix : (activation.diagnostic report).fix.isSome = true) :
    (activation.diagnostic report).Mends tree node := by
  obtain ⟨operand, throws, proposal⟩ := Rule.proposal_of_mem_reports member hasFix
  exact ⟨operand, report, throws, proposal, rfl, rfl⟩

/-! ### One throw, one fix -/

namespace Proposal

variable {tree : SourceTree} {operand : Node}

/-- What constructs an error is no literal. -/
theorem isLiteralValue_eq_false {callee : Node} {name : String}
    (constructs : operand.directConstructor? = some (callee, name)) :
    operand.isLiteralValue = false := by
  obtain ⟨arguments, form, -⟩ := Node.directConstructor?_eq_some constructs
  rw [Node.isLiteralValue, form]

/-- At most one rule proposes a fix for an operand. -/
theorem rule_unique {first second : RuleId} {firstReport secondReport : Report}
    (firstProposal : Proposal tree operand first firstReport)
    (secondProposal : Proposal tree operand second secondReport) : first = second := by
  cases firstProposal with
  | wraps literal =>
    cases secondProposal with
    | wraps _ => rfl
    | renames _ _ constructs | suffixes _ _ constructs _ =>
      rw [isLiteralValue_eq_false constructs] at literal
      cases literal
  | renames _ _ constructs =>
    cases secondProposal with
    | wraps literal =>
      rw [isLiteralValue_eq_false constructs] at literal
      cases literal
    | renames _ _ _ => rfl
    | suffixes _ _ constructs' unmarked =>
      rw [constructs] at constructs'
      cases constructs'
      revert unmarked
      decide
  | suffixes _ _ constructs unmarked =>
    cases secondProposal with
    | wraps literal =>
      rw [isLiteralValue_eq_false constructs] at literal
      cases literal
    | renames _ _ constructs' =>
      rw [constructs] at constructs'
      cases constructs'
      revert unmarked
      decide
    | suffixes _ _ _ _ => rfl

/-- What is proposed for an operand depends on nothing but the operand: two proposals have
the same fix. -/
theorem fix_unique {first second : RuleId} {firstReport secondReport : Report}
    (firstProposal : Proposal tree operand first firstReport)
    (secondProposal : Proposal tree operand second secondReport) :
    firstReport.fix = secondReport.fix := by
  obtain rfl := firstProposal.rule_unique secondProposal
  cases firstProposal with
  | wraps _ =>
    cases secondProposal with
    | wraps _ => rfl
  | renames _ _ constructs suggested =>
    cases secondProposal with
    | renames _ _ constructs' suggested' =>
      rw [constructs] at constructs'
      rw [suggested] at suggested'
      cases constructs'
      cases suggested'
      rfl
  | suffixes _ _ constructs _ =>
    cases secondProposal with
    | suffixes _ _ constructs' _ =>
      rw [constructs] at constructs'
      cases constructs'
      rfl

end Proposal

end ErrorLint
