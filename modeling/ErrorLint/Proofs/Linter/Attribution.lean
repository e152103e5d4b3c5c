/-
This file says who made which finding. Rules are registered one after the other, some of
them off and some perhaps more than once, and what they find is one list. Written as the
plain double loop, with the position of the rule beside each finding, the list falls into
one part for every rule, and the part of a rule is all that a linter with this rule alone
finds. The rules share the walk, the table and the list, and still none of them can tell
whether there are others.

If no two of the rules have the same id, a finding tells its rule by the id, and the same
holds of what directives leave over. Nothing is asked of the rules themselves, so all this
holds of every kind of rules.
-/

import ErrorLint.Linter.Result
import ErrorLint.Proofs.Linter.Traversal
import Mathlib.Data.List.Basic

namespace ErrorLint

variable {R M : Type} [RuleKind R M]

/-- Whether a rule is registered at a severity at which it runs. -/
def Activation.isEnabled (activation : Activation R) : Bool := activation.severity.isEnabled

namespace Linter

/-! ### Registering rules -/

/-- The linter on which the rules are registered one after the other. -/
def register (entries : List (Activation R)) : Linter R :=
  entries.foldl (fun linter entry => linter.add entry.rule entry.severity) Linter.empty

theorem isBuilt_register (entries : List (Activation R)) : (register entries).IsBuilt := by
  have added : ∀ linter : Linter R, linter.IsBuilt →
      (entries.foldl (fun linter entry => linter.add entry.rule entry.severity)
        linter).IsBuilt := by
    induction entries with
    | nil => exact fun linter built => built
    | cons entry rest inductionHypothesis =>
      exact fun linter built => inductionHypothesis _ (.add entry.rule entry.severity built)
  exact added Linter.empty .empty

theorem activations_add (linter : Linter R) (entry : Activation R) :
    (linter.add entry.rule entry.severity).activations =
      linter.activations ++ [entry].filter Activation.isEnabled := by
  unfold add
  split
  · rename_i enabled
    rw [show [entry].filter Activation.isEnabled = [entry] from List.filter_cons_of_pos enabled]
  · rename_i disabled
    rw [show [entry].filter Activation.isEnabled = [] from List.filter_cons_of_neg disabled]
    exact (List.append_nil _).symm

/-- The rules that are not off are active, in the order of registration. -/
theorem activations_register (entries : List (Activation R)) :
    (register entries).activations = entries.filter Activation.isEnabled := by
  have added : ∀ linter : Linter R,
      (entries.foldl (fun linter entry => linter.add entry.rule entry.severity)
        linter).activations = linter.activations ++ entries.filter Activation.isEnabled := by
    induction entries with
    | nil => exact fun linter => (List.append_nil _).symm
    | cons entry rest inductionHypothesis =>
      intro linter
      rw [List.foldl_cons, inductionHypothesis, activations_add, List.append_assoc,
        ← List.filter_append, List.singleton_append]
  exact added Linter.empty

/-! ### Findings with their rules -/

/-- What each of several rules has to say, with the position of the rule, where the first of
them stands at a given position. -/
def labelled (first : Nat) (activations : List (Activation R))
    (findings : Activation R → List Diagnostic) : List (Nat × Diagnostic) :=
  (activations.zipIdx first).flatMap fun (activation, position) =>
    (findings activation).map (position, ·)

/-- The findings of the plain double loop, each with the position of its rule: node by node,
and for each node rule by rule, what the rule says there; then rule by rule its last word. -/
def attributed (activations : List (Activation R)) (tree : SourceTree) : List (Nat × Diagnostic) :=
  (tree.nodes.flatMap fun node => labelled 0 activations (·.findingsAt tree node)) ++
    labelled 0 activations (·.closingFindings tree)

section

variable {first position : Nat} {activations : List (Activation R)} {activation : Activation R}
  {findings : Activation R → List Diagnostic} {tree : SourceTree}

theorem labelled_cons :
    labelled first (activation :: activations) findings =
      (findings activation).map (first, ·) ++ labelled (first + 1) activations findings := by
  rw [labelled, List.zipIdx_cons, List.flatMap_cons]
  rfl

theorem map_snd_labelled :
    (labelled first activations findings).map Prod.snd = activations.flatMap findings := by
  induction activations generalizing first with
  | nil => rfl
  | cons activation rest inductionHypothesis =>
    rw [labelled_cons, List.map_append, List.map_map, inductionHypothesis, List.flatMap_cons]
    exact congrArg (· ++ _) (List.map_id' _)

/-- A labelled finding is one of the rule at its position. -/
theorem exists_of_mem_labelled {entry : Nat × Diagnostic}
    (member : entry ∈ labelled first activations findings) :
    first ≤ entry.1 ∧ ∃ activation, activations[entry.1 - first]? = some activation ∧
      entry.2 ∈ findings activation := by
  obtain ⟨⟨activation, position⟩, indexed, inFindings⟩ := List.mem_flatMap.mp member
  obtain ⟨diagnostic, found, rfl⟩ := List.mem_map.mp inFindings
  obtain ⟨bound, located⟩ := List.mem_zipIdx_iff_le_and_getElem?_sub.mp indexed
  exact ⟨bound, activation, located, found⟩

/-- The part of the rule at a position is what it has to say. -/
theorem filter_labelled (located : activations[position]? = some activation) :
    ((labelled first activations findings).filter (·.1 = first + position)).map Prod.snd =
      findings activation := by
  induction activations generalizing first position with
  | nil => cases located
  | cons head rest inductionHypothesis =>
    rw [labelled_cons, List.filter_append, List.map_append]
    cases position with
    | zero =>
      obtain rfl := Option.some.inj located
      have later : (labelled (first + 1) rest findings).filter (·.1 = first + 0) = [] := by
        refine List.filter_eq_nil_iff.mpr fun entry member => ?_
        have bound := (exists_of_mem_labelled member).1
        rw [decide_eq_true_eq]
        omega
      have here : ((findings head).map (first, ·)).filter (·.1 = first + 0) =
          (findings head).map (first, ·) := by
        refine List.filter_eq_self.mpr fun entry member => ?_
        obtain ⟨diagnostic, -, rfl⟩ := List.mem_map.mp member
        exact decide_eq_true rfl
      rw [later, here, List.map_map, List.map_nil, List.append_nil]
      exact List.map_id' _
    | succ position =>
      have here : ((findings head).map (first, ·)).filter (·.1 = first + (position + 1)) = [] := by
        refine List.filter_eq_nil_iff.mpr fun entry member => ?_
        obtain ⟨diagnostic, -, rfl⟩ := List.mem_map.mp member
        rw [decide_eq_true_eq]
        dsimp only
        omega
      have shifted : first + (position + 1) = first + 1 + position := by omega
      rw [here, List.map_nil, List.nil_append, shifted]
      exact inductionHypothesis located

theorem map_snd_attributed :
    (attributed activations tree).map Prod.snd =
      (tree.nodes.flatMap fun node => activations.flatMap (·.findingsAt tree node)) ++
        activations.flatMap (·.closingFindings tree) := by
  rw [attributed, List.map_append, List.map_flatMap, map_snd_labelled]
  simp only [map_snd_labelled]

/-- The part of the rule at a position is what it says about the nodes, and its last word. -/
theorem filter_attributed (located : activations[position]? = some activation) :
    ((attributed activations tree).filter (·.1 = position)).map Prod.snd =
      tree.nodes.flatMap (activation.findingsAt tree) ++ activation.closingFindings tree := by
  have part : ∀ findings : Activation R → List Diagnostic,
      ((labelled 0 activations findings).filter (·.1 = position)).map Prod.snd =
        findings activation := by
    intro findings
    have filtered : ((labelled 0 activations findings).filter (·.1 = 0 + position)).map Prod.snd =
        findings activation := filter_labelled located
    rwa [Nat.zero_add] at filtered
  rw [attributed, List.filter_append, List.map_append, List.filter_flatMap, List.map_flatMap, part]
  simp only [part]

/-- A finding names the rule at its position. -/
theorem rule_of_mem_attributed {entry : Nat × Diagnostic}
    (member : entry ∈ attributed activations tree) :
    ∃ activation, activations[entry.1]? = some activation ∧
      entry.2.rule = RuleKind.id activation.rule := by
  rcases List.mem_append.mp member with during | after
  · obtain ⟨node, -, atNode⟩ := List.mem_flatMap.mp during
    obtain ⟨-, activation, located, found⟩ := exists_of_mem_labelled atNode
    exact ⟨activation, located, Activation.rule_of_mem_findingsAt found⟩
  · obtain ⟨-, activation, located, found⟩ := exists_of_mem_labelled after
    obtain ⟨report, -, same⟩ := List.mem_map.mp found
    exact ⟨activation, located, same ▸ rfl⟩

/-- If no two rules have the same id, the findings with the id of a rule are its part. -/
theorem filter_rule_attributed (distinct : (activations.map (RuleKind.id ·.rule)).Nodup)
    (located : activations[position]? = some activation) :
    ((attributed activations tree).map Prod.snd).filter (·.rule = RuleKind.id activation.rule) =
      ((attributed activations tree).filter (·.1 = position)).map Prod.snd := by
  rw [List.filter_map]
  refine congrArg (List.map Prod.snd) (List.filter_congr fun entry member => ?_)
  obtain ⟨other, otherLocated, named⟩ := rule_of_mem_attributed member
  rw [Function.comp_apply, named, decide_eq_decide]
  constructor
  · intro same
    have bound : entry.1 < (activations.map (RuleKind.id ·.rule)).length := by
      rw [List.length_map]
      exact (List.getElem?_eq_some_iff.mp otherLocated).1
    refine (List.getElem?_inj bound distinct).mp ?_
    rw [List.getElem?_map, List.getElem?_map, otherLocated, located, Option.map_some,
      Option.map_some, same]
  · intro same
    rw [same, located] at otherLocated
    rw [Option.some.inj otherLocated]

end

/-- A linter with one active rule finds what the rule says about the nodes, and its last
word. -/
theorem emit_register_singleton {activation : Activation R} (enabled : activation.isEnabled = true)
    (tree : SourceTree) :
    (register [activation]).emit tree =
      tree.nodes.flatMap (activation.findingsAt tree) ++ activation.closingFindings tree := by
  have active : (register [activation]).activations = [activation] := by
    rw [activations_register, List.filter_cons_of_pos enabled, List.filter_nil]
  rw [(isBuilt_register _).emit_eq]
  unfold findingsAt
  simp only [active, List.flatMap_singleton]

/-- The findings of rules that are registered one after the other are those of the plain
double loop over the nodes and the enabled rules. The part of every rule is what a linter
with this rule alone finds, and if no two of the enabled rules have the same id, so are the
findings with the id of the rule that no directive hides. -/
theorem emit_register_separates (entries : List (Activation R)) (tree : SourceTree) :
    let enabled := entries.filter Activation.isEnabled
    (register entries).emit tree = (attributed enabled tree).map Prod.snd ∧
      (∀ position activation, enabled[position]? = some activation →
        ((attributed enabled tree).filter (·.1 = position)).map Prod.snd =
          (register [activation]).emit tree) ∧
      ((enabled.map (RuleKind.id ·.rule)).Nodup → ∀ activation ∈ enabled, ∀ path,
        (LintResult.mk path ((register entries).lintTree tree) tree.hasErrors).byRule
            (RuleKind.id activation.rule) =
          (register [activation]).lintTree tree) := by
  intro enabled
  have plain : (register entries).emit tree = (attributed enabled tree).map Prod.snd := by
    rw [(isBuilt_register _).emit_eq, map_snd_attributed]
    unfold findingsAt
    rw [activations_register]
  have parts : ∀ position activation, enabled[position]? = some activation →
      ((attributed enabled tree).filter (·.1 = position)).map Prod.snd =
        (register [activation]).emit tree := by
    intro position activation located
    have isEnabled := (List.mem_filter.mp (List.mem_of_getElem? located)).2
    rw [filter_attributed located, emit_register_singleton isEnabled]
  refine ⟨plain, parts, ?_⟩
  intro distinct activation member path
  obtain ⟨position, located⟩ := List.getElem?_of_mem member
  have separate : ((register entries).emit tree).filter (·.rule = RuleKind.id activation.rule) =
      (register [activation]).emit tree := by
    rw [plain, filter_rule_attributed distinct located, parts position activation located]
  unfold LintResult.byRule lintTree
  rw [← separate]
  dsimp only
  rw [List.filter_filter, List.filter_filter]
  exact List.filter_congr fun _ _ => Bool.and_comm _ _

end Linter

namespace Sample

/-- A term that starts on a line at a column. -/
def termOn (line column start stop : Nat) (form : Form Term) : Term :=
  .node ⟨⟨start, stop⟩, ⟨line, column⟩⟩ form

/-- A text is thrown, and then a message twice with one class, the second time under a
directive. -/
def mixedThrows : SourceTree where
  source := "throw 'a';\nthrow new HttpError('b');\n" ++
    "throw new HttpError('b'); // eslint-disable-line"
  root := termOn 1 1 0 85 (.program [
    termOn 1 1 0 10 (.throwing (some (termOn 1 7 6 9 (.literal (.string "a"))))),
    termOn 2 1 11 36 (.throwing (some (termOn 2 7 17 35 (.construction
      (termOn 2 11 21 30 (.identifier "HttpError"))
      [termOn 2 21 31 34 (.literal (.string "b"))])))),
    termOn 3 1 37 62 (.throwing (some (termOn 3 7 43 61 (.construction
      (termOn 3 11 47 56 (.identifier "HttpError"))
      [termOn 3 21 57 60 (.literal (.string "b"))]))))])
  hasErrors := false

/-- Two rules that run, with one between them that is off. -/
def mixedRules : List (Activation Rule) :=
  [⟨.noThrowLiteral .defaults, .error⟩, ⟨.noGenericError .defaults, .off⟩,
    ⟨.requireHardcodedErrorMessage .defaults, .warn⟩]

end Sample

/-- The two rules find three things together. Of the two findings of the second rule one is
hidden, whether the first rule runs or not. -/
theorem Linter.emit_register_separates_sample :
    let linter := register Sample.mixedRules
    let repeats : Activation Rule := ⟨.requireHardcodedErrorMessage .defaults, .warn⟩
    (linter.emit Sample.mixedThrows).map (fun found => (found.rule, found.line)) =
        [(.noThrowLiteral, 1), (.requireHardcodedErrorMessage, 2),
          (.requireHardcodedErrorMessage, 3)] ∧
      ((register [repeats]).emit Sample.mixedThrows).map (·.line) = [2, 3] ∧
      (LintResult.mk none (linter.lintTree Sample.mixedThrows) false).byRule
          .requireHardcodedErrorMessage =
        (register [repeats]).lintTree Sample.mixedThrows ∧
      ((register [repeats]).lintTree Sample.mixedThrows).map (·.line) = [2] := by
  intro linter repeats
  have distinct :
      ((Sample.mixedRules.filter Activation.isEnabled).map (RuleKind.id ·.rule)).Nodup := by
    decide
  have active : repeats ∈ Sample.mixedRules.filter Activation.isEnabled :=
    List.mem_cons_of_mem _ List.mem_cons_self
  obtain ⟨-, -, separate⟩ := emit_register_separates Sample.mixedRules Sample.mixedThrows
  exact ⟨by decide +kernel, by decide +kernel, separate distinct repeats active none,
    by decide +kernel⟩

namespace Sample

/-- A rule of a kind of its own, which only counts throws, but asks for them twice. -/
structure Counter where

instance : RuleKind Counter Nat where
  id _ := .noThrowLiteral
  visits _ := [.throwing, .throwing]
  start _ := 0
  reports _ _ _ _ := []
  remember _ shown _ := shown + 1
  closingReports _ shown := List.replicate shown (Report.plain ⟨⟨0, 0⟩, ⟨1, 1⟩⟩ "throw")

/-- The table names the rule once for throws, so it counts three of them and not six. -/
example : ((Linter.register [⟨Counter.mk, .warn⟩]).emit mixedThrows).length = 3 := by
  decide +kernel

end Sample

end ErrorLint
