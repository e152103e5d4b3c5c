/-
This file says which fixes of one pass over a tree are skipped. Every fix belongs to one
throw, and no two rules fix the same one. Of two throws that follow each other the fixes
are apart, since a throw starts before everything that a fix of it can replace. Of a throw
inside another one the fixes are apart as well if the outer one only renames what is
constructed: the name ends before the arguments start, and the inner throw stands in the
arguments. Only where the outer fix wraps its whole operand can the inner fix lie inside
the outer one, and the only literal with anything inside is a template.

So the fixes are found in the order of their spans, two of them are apart or one lies
inside the other, and the greedy choice takes exactly those that lie inside no other.
-/

import ErrorLint.Proofs.Fix.Selection
import ErrorLint.Proofs.Linter.Traversal
import ErrorLint.Proofs.Tree.Geometry
import Mathlib.Data.List.Basic

namespace ErrorLint

/-! ### Choosing among nested fixes -/

/-- A fix lies inside another one: it starts strictly after it and ends no later. -/
def Fix.Inside (inner outer : Fix) : Prop :=
  outer.span.start < inner.span.start ∧ inner.span.stop ≤ outer.span.stop

instance (inner outer : Fix) : Decidable (inner.Inside outer) :=
  inferInstanceAs (Decidable (_ ∧ _))

/-- Of two fixes the second one starts strictly after the end of the first one, or lies
inside it. -/
def Fix.Nests (first second : Fix) : Prop :=
  first.span.stop < second.span.start ∨ second.Inside first

theorem Fix.Nests.start_lt {first second : Fix} (nests : first.Nests second)
    (ordered : first.span.start ≤ first.span.stop) : first.span.start < second.span.start := by
  rcases nests with apart | inside
  · exact Nat.lt_of_le_of_lt ordered apart
  · exact inside.1

namespace Splice

variable {text : List Char} {lastStop : Option Nat} {judged rest : List Fix} {fix : Fix}

/-- How far a choice has come, told by the fixes that it has judged: one that is still ahead
starts no later than the end of the one taken last exactly if it lies inside a judged one. -/
def Tracks (lastStop : Option Nat) (judged ahead : List Fix) : Prop :=
  ∀ fix ∈ ahead, (∃ stop ∈ lastStop, fix.span.start ≤ stop) ↔ ∃ other ∈ judged, fix.Inside other

theorem Tracks.isTaken_iff (tracks : Tracks lastStop judged (fix :: rest))
    (inBounds : fix.isInBounds text = true) :
    fix.isTaken text lastStop = true ↔ ¬∃ other ∈ judged, fix.Inside other := by
  rw [← tracks fix List.mem_cons_self, Fix.isTaken, inBounds, Bool.true_and, Option.all_eq_true]
  simp only [Option.mem_def, decide_eq_true_eq, not_exists, not_and, Nat.not_le]

/-- A fix that is skipped leaves the end of the one taken last. Whatever lies inside it lies
inside the judged one that it lies in itself. -/
theorem Tracks.skip (tracks : Tracks lastStop judged (fix :: rest))
    (shadowed : ∃ other ∈ judged, fix.Inside other) :
    Tracks lastStop (judged ++ [fix]) rest := by
  intro later inRest
  rw [tracks later (List.mem_cons_of_mem _ inRest)]
  constructor
  · rintro ⟨other, inJudged, inside⟩
    exact ⟨other, List.mem_append_left _ inJudged, inside⟩
  · rintro ⟨other, member, inside⟩
    rcases List.mem_append.mp member with inJudged | isFix
    · exact ⟨other, inJudged, inside⟩
    · obtain rfl := List.mem_singleton.mp isFix
      obtain ⟨outer, inJudged, around⟩ := shadowed
      exact ⟨outer, inJudged, Nat.lt_trans around.1 inside.1, Nat.le_trans inside.2 around.2⟩

/-- A fix that is taken sets the end. It starts behind the end before, so whatever that end
reached is reached still. -/
theorem Tracks.take (tracks : Tracks lastStop judged (fix :: rest))
    (free : ¬∃ other ∈ judged, fix.Inside other)
    (ordered : ∀ later ∈ fix :: rest, later.span.start ≤ later.span.stop)
    (nests : ∀ later ∈ rest, fix.Nests later) :
    Tracks (some fix.span.stop) (judged ++ [fix]) rest := by
  intro later inRest
  constructor
  · rintro ⟨stop, last, reaches⟩
    cases last
    rcases nests later inRest with apart | inside
    · exact absurd apart (Nat.not_lt_of_le reaches)
    · exact ⟨fix, List.mem_append_right _ (List.mem_singleton_self fix), inside⟩
  · rintro ⟨other, member, inside⟩
    refine ⟨fix.span.stop, rfl, ?_⟩
    rcases List.mem_append.mp member with inJudged | isFix
    · obtain ⟨stop, last, reaches⟩ :=
        (tracks later (List.mem_cons_of_mem _ inRest)).mpr ⟨other, inJudged, inside⟩
      have behind : ¬fix.span.start ≤ stop := fun reached =>
        free ((tracks fix List.mem_cons_self).mp ⟨stop, last, reached⟩)
      have fixOrdered := ordered fix List.mem_cons_self
      omega
    · obtain rfl := List.mem_singleton.mp isFix
      exact Nat.le_trans (ordered later (List.mem_cons_of_mem _ inRest)) inside.2

/-- Nothing from a fix on starts early enough to have that fix inside. -/
theorem exists_inside_append_iff (judged : List Fix) (ordered : fix.span.start ≤ fix.span.stop)
    (nests : ∀ later ∈ rest, fix.Nests later) :
    (∃ other ∈ judged ++ fix :: rest, fix.Inside other) ↔ ∃ other ∈ judged, fix.Inside other := by
  constructor
  · rintro ⟨other, member, inside⟩
    rcases List.mem_append.mp member with inJudged | later
    · exact ⟨other, inJudged, inside⟩
    · rcases List.mem_cons.mp later with rfl | inRest
      · exact absurd inside.1 (Nat.lt_irrefl _)
      · exact absurd inside.1 (Nat.lt_asymm ((nests other inRest).start_lt ordered))
  · rintro ⟨other, inJudged, inside⟩
    exact ⟨other, List.mem_append_left _ inJudged, inside⟩

/-- Fixes that are in bounds and nest are taken unless they lie inside another one. -/
theorem select_of_nests {ahead : List Fix}
    (inBounds : ∀ fix ∈ ahead, fix.isInBounds text = true)
    (ordered : ∀ fix ∈ ahead, fix.span.start ≤ fix.span.stop)
    (nests : ahead.Pairwise Fix.Nests) (tracks : Tracks lastStop judged ahead) :
    select text lastStop ahead =
      ahead.filter fun fix => ¬∃ other ∈ judged ++ ahead, fix.Inside other := by
  induction ahead generalizing judged lastStop with
  | nil => rfl
  | cons fix rest inductionHypothesis =>
    obtain ⟨nestsFix, nestsRest⟩ := List.pairwise_cons.mp nests
    have isTaken_iff := tracks.isTaken_iff (inBounds fix List.mem_cons_self)
    have onlyJudged := exists_inside_append_iff judged (ordered fix List.mem_cons_self) nestsFix
    have continues : ∀ lastStop : Option Nat, Tracks lastStop (judged ++ [fix]) rest →
        select text lastStop rest =
          rest.filter fun later => ¬∃ other ∈ judged ++ fix :: rest, later.Inside other := by
      intro lastStop tracksRest
      rw [show judged ++ fix :: rest = (judged ++ [fix]) ++ rest by
        rw [List.append_assoc, List.singleton_append]]
      exact inductionHypothesis (fun later inRest => inBounds later (List.mem_cons_of_mem _ inRest))
        (fun later inRest => ordered later (List.mem_cons_of_mem _ inRest)) nestsRest tracksRest
    by_cases shadowed : ∃ other ∈ judged, fix.Inside other
    · have notTaken : fix.isTaken text lastStop = false := by
        rw [← Bool.not_eq_true, isTaken_iff, not_not]
        exact shadowed
      rw [select_cons_of_not_taken notTaken, continues lastStop (tracks.skip shadowed),
        List.filter_cons_of_neg]
      rw [decide_eq_true_eq, not_not, onlyJudged]
      exact shadowed
    · rw [select_cons_of_taken (isTaken_iff.mpr shadowed),
        continues _ (tracks.take shadowed ordered nestsFix), List.filter_cons_of_pos]
      rw [decide_eq_true_eq, onlyJudged]
      exact shadowed

/-- Of fixes that nest and are found in the order of their spans, those are chosen that lie
inside no other. -/
theorem chosen_of_nests {fixes : List Fix}
    (inBounds : ∀ fix ∈ fixes, fix.isInBounds text = true)
    (ordered : ∀ fix ∈ fixes, fix.span.start ≤ fix.span.stop)
    (nests : fixes.Pairwise Fix.Nests) :
    chosen text fixes = fixes.filter fun fix => ¬∃ other ∈ fixes, fix.Inside other := by
  have sorted : fixes.Pairwise fun left right => left.le right = true := by
    refine nests.imp_of_mem fun {left right} leftIn _ nested => ?_
    have starts := nested.start_lt (ordered left leftIn)
    rw [Fix.le, Bool.or_eq_true]
    exact Or.inl (decide_eq_true starts)
  rw [chosen, List.mergeSort_of_pairwise sorted]
  have tracks : Tracks none [] fixes := by
    intro fix _
    constructor
    · rintro ⟨stop, last, -⟩
      cases last
    · rintro ⟨other, member, -⟩
      cases member
  exact select_of_nests inBounds ordered nests tracks

end Splice

/-! ### Throws and their fixes -/

/-- What a fix of a throw replaces: the name of the class if the throw constructs one by its
name, and else the operand. -/
def Node.target? (node : Node) : Option Node :=
  node.thrown?.map fun operand => (operand.directConstructor?.map (·.1)).getD operand

/-- A fix belongs to a throw: it replaces what fixes of this throw replace. -/
def Fix.BelongsTo (fix : Fix) (node : Node) : Prop :=
  ∃ target, node.target? = some target ∧ fix.span = target.span

/-- A finding wraps a throw from outside: it wraps a template that another throw throws, and
the throw stands inside this template. -/
structure Diagnostic.WrapsAround (tree : SourceTree) (outer inner : Node)
    (diagnostic : Diagnostic) : Prop where
  rule : diagnostic.rule = .noThrowLiteral
  messageId : diagnostic.messageId = "literal"
  encloses : ∃ template, outer.thrown? = some template ∧ template.shape = .template ∧
    inner ∈ template.subtree ∧ diagnostic.fix = some (NoThrowLiteral.wrap tree template)

/-- A fix is shadowed if one of the findings wraps the throw that it belongs to from
outside. -/
def Fix.IsShadowed (tree : SourceTree) (diagnostics : List Diagnostic) (fix : Fix) : Prop :=
  ∃ inner ∈ tree.nodes, fix.BelongsTo inner ∧
    ∃ outer ∈ tree.nodes, ∃ diagnostic ∈ diagnostics, diagnostic.WrapsAround tree outer inner

/-- The fix of a finding that mends a throw belongs to this throw. -/
theorem Diagnostic.Mends.belongsTo {tree : SourceTree} {node : Node} {diagnostic : Diagnostic}
    (mends : diagnostic.Mends tree node) {fix : Fix} (hasFix : diagnostic.fix = some fix) :
    fix.BelongsTo node := by
  obtain ⟨operand, report, throws, proposal, -, same⟩ := mends
  rw [same] at hasFix
  generalize diagnostic.rule = rule at proposal
  cases proposal with
  | wraps literal =>
    cases hasFix
    have constructsNone : operand.directConstructor? = none := by
      cases constructs : operand.directConstructor? with
      | none => rfl
      | some found =>
        rw [Proposal.isLiteralValue_eq_false constructs] at literal
        cases literal
    exact ⟨operand, by rw [Node.target?, throws, Option.map_some, constructsNone]; rfl, rfl⟩
  | renames callee category constructs =>
    cases hasFix
    exact ⟨callee, by rw [Node.target?, throws, Option.map_some, constructs]; rfl, rfl⟩
  | suffixes callee name constructs unmarked =>
    cases hasFix
    exact ⟨callee, by rw [Node.target?, throws, Option.map_some, constructs]; rfl, rfl⟩

namespace Fix.BelongsTo

variable {tree : SourceTree} {node first second : Node} {fix firstFix secondFix : Fix}

/-- Only a throw has fixes. The fix replaces the name of what it constructs, or all of what
it throws. -/
theorem cases (belongs : fix.BelongsTo node) :
    ∃ operand, node.thrown? = some operand ∧
      ((∃ callee name, operand.directConstructor? = some (callee, name) ∧
        fix.span = callee.span) ∨
      operand.directConstructor? = none ∧ fix.span = operand.span) := by
  obtain ⟨target, isTarget, same⟩ := belongs
  obtain ⟨operand, throws, rfl⟩ := Option.map_eq_some_iff.mp isTarget
  refine ⟨operand, throws, ?_⟩
  cases constructs : operand.directConstructor? with
  | none =>
    rw [constructs] at same
    exact Or.inr ⟨rfl, same⟩
  | some found =>
    rw [constructs] at same
    exact Or.inl ⟨found.1, found.2, rfl, same⟩

theorem shape_eq (belongs : fix.BelongsTo node) : node.shape = .throwing := by
  obtain ⟨operand, throws, -⟩ := belongs.cases
  exact Node.shape_of_thrown? throws

/-- All fixes of a throw replace the same. -/
theorem span_eq (firstBelongs : firstFix.BelongsTo node)
    (secondBelongs : secondFix.BelongsTo node) :
    firstFix.span = secondFix.span := by
  obtain ⟨target, isTarget, same⟩ := firstBelongs
  obtain ⟨target', isTarget', same'⟩ := secondBelongs
  rw [isTarget] at isTarget'
  rw [same, same', Option.some.inj isTarget']

/-- A fix lies within its throw and starts strictly after it. -/
theorem inside_throw (wellFormed : tree.WellFormed) (inTree : node ∈ tree.nodes)
    (belongs : fix.BelongsTo node) :
    fix.span.Valid tree.source.toList ∧ node.span.start < fix.span.start ∧
      fix.span.stop ≤ node.span.stop := by
  obtain ⟨operand, throws, replaces⟩ := belongs.cases
  have operandBelow := Node.mem_subtree_of_mem_children (Node.mem_children_of_thrown? throws)
  have operandInTree := SourceTree.mem_nodes_of_thrown? inTree throws
  have starts := (wellFormed node inTree).throws operand throws
  have operandWithin := wellFormed.within inTree operandBelow
  rcases replaces with ⟨callee, name, constructs, same⟩ | ⟨-, same⟩
  · have calleeBelow := Node.mem_subtree_of_mem_children (Node.callee_mem_children constructs)
    have calleeWithin := wellFormed.within operandInTree calleeBelow
    have calleeInTree := SourceTree.mem_nodes_of_mem_subtree operandInTree calleeBelow
    rw [same]
    exact ⟨(wellFormed callee calleeInTree).valid, Nat.lt_of_lt_of_le starts calleeWithin.1,
      Nat.le_trans calleeWithin.2 operandWithin.2⟩
  · rw [same]
    exact ⟨(wellFormed operand operandInTree).valid, starts, operandWithin.2⟩

/-- The fixes of two throws, of which the first one precedes the second one, are apart,
unless the first fix replaces all of an operand that has the second throw inside. -/
theorem apart_or_within (wellFormed : tree.WellFormed) (firstInTree : first ∈ tree.nodes)
    (secondInTree : second ∈ tree.nodes) (precedes : first.Precedes second)
    (firstBelongs : firstFix.BelongsTo first) (secondBelongs : secondFix.BelongsTo second) :
    firstFix.span.stop < secondFix.span.start ∨
      ∃ operand, first.thrown? = some operand ∧ operand.directConstructor? = none ∧
        firstFix.span = operand.span ∧ second ∈ operand.subtree := by
  have secondInside := secondBelongs.inside_throw wellFormed secondInTree
  rcases precedes with below | follows
  · obtain ⟨operand, throws, replaces⟩ := firstBelongs.cases
    have inside := Node.mem_subtree_of_below throws below
    have operandInTree := SourceTree.mem_nodes_of_thrown? firstInTree throws
    rcases replaces with ⟨callee, name, constructs, same⟩ | ⟨constructsNone, same⟩
    · have behind := Node.stop_callee_le (fun inner isInner =>
        wellFormed inner (SourceTree.mem_nodes_of_mem_subtree operandInTree isInner))
        constructs inside secondBelongs.shape_eq
      rw [same]
      exact Or.inl (Nat.lt_of_le_of_lt behind secondInside.2.1)
    · exact Or.inr ⟨operand, throws, constructsNone, same, inside⟩
  · have firstInside := firstBelongs.inside_throw wellFormed firstInTree
    have firstStops : firstFix.span.stop ≤ second.span.start :=
      Nat.le_trans firstInside.2.2 follows
    exact Or.inl (Nat.lt_of_le_of_lt firstStops secondInside.2.1)

/-- A fix of a throw inside an operand lies inside every fix that replaces this operand. -/
theorem inside_of_mem_subtree (wellFormed : tree.WellFormed) {operand : Node}
    (operandInTree : operand ∈ tree.nodes) (same : firstFix.span = operand.span)
    (inside : second ∈ operand.subtree) (secondBelongs : secondFix.BelongsTo second) :
    secondFix.Inside firstFix := by
  have secondInTree := SourceTree.mem_nodes_of_mem_subtree operandInTree inside
  have secondWithin := wellFormed.within operandInTree inside
  have secondInside := secondBelongs.inside_throw wellFormed secondInTree
  rw [Fix.Inside, same]
  exact ⟨Nat.lt_of_le_of_lt secondWithin.1 secondInside.2.1,
    Nat.le_trans secondInside.2.2 secondWithin.2⟩

theorem nests (wellFormed : tree.WellFormed) (firstInTree : first ∈ tree.nodes)
    (secondInTree : second ∈ tree.nodes) (precedes : first.Precedes second)
    (firstBelongs : firstFix.BelongsTo first) (secondBelongs : secondFix.BelongsTo second) :
    firstFix.Nests secondFix := by
  rcases firstBelongs.apart_or_within wellFormed firstInTree secondInTree precedes secondBelongs
    with apart | ⟨operand, throws, -, same, inside⟩
  · exact Or.inl apart
  · have operandInTree := SourceTree.mem_nodes_of_thrown? firstInTree throws
    exact Or.inr (secondBelongs.inside_of_mem_subtree wellFormed operandInTree same inside)

/-- A fix belongs to one throw only. -/
theorem unique (wellFormed : tree.WellFormed) (firstInTree : first ∈ tree.nodes)
    (secondInTree : second ∈ tree.nodes) (firstBelongs : fix.BelongsTo first)
    (secondBelongs : fix.BelongsTo second) : first = second := by
  have ordered := (firstBelongs.inside_throw wellFormed firstInTree).1.ordered
  rcases wellFormed.precedes_or firstInTree secondInTree with same | before | after
  · exact same
  · have nested := firstBelongs.nests wellFormed firstInTree secondInTree before secondBelongs
    exact absurd (nested.start_lt ordered) (Nat.lt_irrefl _)
  · have nested := secondBelongs.nests wellFormed secondInTree firstInTree after firstBelongs
    exact absurd (nested.start_lt ordered) (Nat.lt_irrefl _)

end Fix.BelongsTo

/-- Of two throws, of which the first one precedes the second one, the fixes are apart,
unless the finding on the first one wraps the second one from outside. -/
theorem Diagnostic.Mends.apart_or_wrapsAround {tree : SourceTree} (wellFormed : tree.WellFormed)
    {first second : Node} (firstInTree : first ∈ tree.nodes) (secondInTree : second ∈ tree.nodes)
    (precedes : first.Precedes second) {diagnostic : Diagnostic}
    (mends : diagnostic.Mends tree first) {firstFix secondFix : Fix}
    (hasFix : diagnostic.fix = some firstFix) (secondBelongs : secondFix.BelongsTo second) :
    firstFix.span.stop < secondFix.span.start ∨ diagnostic.WrapsAround tree first second := by
  rcases (mends.belongsTo hasFix).apart_or_within wellFormed firstInTree secondInTree precedes
    secondBelongs with apart | ⟨operand, throws, constructsNone, -, inside⟩
  · exact Or.inl apart
  · right
    obtain ⟨operand', report, throws', proposal, messageId, same⟩ := mends
    obtain rfl : operand' = operand := Option.some.inj (throws'.symm.trans throws)
    generalize isRule : diagnostic.rule = rule at proposal
    cases proposal with
    | wraps literal =>
      exact ⟨isRule, messageId, operand', throws,
        Node.shape_of_isLiteralValue literal inside secondBelongs.shape_eq, inside, same⟩
    | renames callee category constructs =>
      rw [constructsNone] at constructs
      cases constructs
    | suffixes callee name constructs unmarked =>
      rw [constructsNone] at constructs
      cases constructs

/-! ### The fixes of one pass -/

namespace Linter

variable {linter : Linter Rule} {tree : SourceTree}

theorem mends_of_mem_findingsAt {node : Node} {diagnostic : Diagnostic}
    (member : diagnostic ∈ linter.findingsAt tree node) (hasFix : diagnostic.fix.isSome = true) :
    diagnostic.Mends tree node := by
  obtain ⟨activation, -, found⟩ := List.mem_flatMap.mp member
  exact Activation.mends_of_mem_findingsAt found hasFix

/-- On one node at most one finding carries a fix, if no rule is active twice. -/
theorem pairwise_findingsAt (distinct : linter.ruleIds.Nodup) (node : Node) :
    (linter.findingsAt tree node).Pairwise fun first second =>
      ¬(first.fix.isSome = true ∧ second.fix.isSome = true) := by
  rw [findingsAt, List.pairwise_flatMap]
  refine ⟨?_, ?_⟩
  · intro activation _
    have short : (activation.findingsAt tree node).length ≤ 1 :=
      Activation.length_findingsAt_le_one
    cases found : activation.findingsAt tree node with
    | nil => exact List.Pairwise.nil
    | cons finding rest =>
      rw [found, List.length_cons] at short
      rw [List.length_eq_zero_iff.mp (by omega : rest.length = 0)]
      exact List.pairwise_singleton _ _
  · refine (List.pairwise_map.mp distinct).imp ?_
    rintro left right different first inLeft second inRight ⟨firstHasFix, secondHasFix⟩
    obtain ⟨operand, report, throws, proposal, -⟩ :=
      Activation.mends_of_mem_findingsAt inLeft firstHasFix
    obtain ⟨operand', report', throws', proposal', -⟩ :=
      Activation.mends_of_mem_findingsAt inRight secondHasFix
    obtain rfl : operand' = operand := Option.some.inj (throws'.symm.trans throws)
    have sameRule := proposal.rule_unique proposal'
    rw [Activation.rule_of_mem_findingsAt inLeft, Activation.rule_of_mem_findingsAt inRight]
      at sameRule
    exact different sameRule

/-- The fixes of a linter that is built are found in the order of their spans, and nest. -/
theorem pairwise_nests (built : linter.IsBuilt) (distinct : linter.ruleIds.Nodup)
    (wellFormed : tree.WellFormed) :
    ((linter.lintTree tree).filterMap (·.fix)).Pairwise Fix.Nests := by
  rw [List.pairwise_filterMap]
  refine List.Pairwise.sublist List.filter_sublist ?_
  rw [built.emit_eq, List.pairwise_append, List.pairwise_flatMap]
  refine ⟨⟨?_, ?_⟩, ?_, ?_⟩
  · intro node _
    refine (pairwise_findingsAt distinct node).imp ?_
    intro first second exclude firstFix firstHasFix secondFix secondHasFix
    exact absurd ⟨Option.isSome_of_eq_some firstHasFix, Option.isSome_of_eq_some secondHasFix⟩
      exclude
  · refine wellFormed.pairwise_nodes.imp_of_mem ?_
    intro before after beforeInTree afterInTree precedes first firstFound second secondFound
      firstFix firstHasFix secondFix secondHasFix
    have firstMends := mends_of_mem_findingsAt firstFound (Option.isSome_of_eq_some firstHasFix)
    have secondMends := mends_of_mem_findingsAt secondFound (Option.isSome_of_eq_some secondHasFix)
    exact (firstMends.belongsTo firstHasFix).nests wellFormed beforeInTree afterInTree precedes
      (secondMends.belongsTo secondHasFix)
  · refine List.pairwise_of_forall_mem_list ?_
    intro first firstFound second _ firstFix firstHasFix
    rw [fix_of_mem_closingFindings firstFound] at firstHasFix
    cases firstHasFix
  · intro first _ second secondFound firstFix _ secondFix secondHasFix
    rw [fix_of_mem_closingFindings secondFound] at secondHasFix
    cases secondHasFix

/-- Every fix belongs to a throw of the tree, and the finding that carries it mends this
throw. -/
theorem exists_mends_of_mem_fixes {fix : Fix}
    (member : fix ∈ (linter.lintTree tree).filterMap (·.fix)) :
    ∃ diagnostic ∈ linter.lintTree tree, diagnostic.fix = some fix ∧
      ∃ node ∈ tree.nodes, diagnostic.Mends tree node ∧ fix.BelongsTo node := by
  obtain ⟨diagnostic, found, hasFix⟩ := List.mem_filterMap.mp member
  obtain ⟨node, inTree, mends⟩ :=
    exists_mends_of_mem_lintTree diagnostic found (Option.isSome_of_eq_some hasFix)
  exact ⟨diagnostic, found, hasFix, node, inTree, mends, mends.belongsTo hasFix⟩

/-- A fix lies inside another one exactly if it is shadowed. -/
theorem exists_inside_iff_isShadowed (wellFormed : tree.WellFormed) {fix : Fix}
    (member : fix ∈ (linter.lintTree tree).filterMap (·.fix)) :
    (∃ other ∈ (linter.lintTree tree).filterMap (·.fix), fix.Inside other) ↔
      fix.IsShadowed tree (linter.lintTree tree) := by
  constructor
  · rintro ⟨other, isOther, inside⟩
    obtain ⟨-, -, -, inner, innerInTree, -, innerBelongs⟩ := exists_mends_of_mem_fixes member
    obtain ⟨outerFinding, found, hasFix, outer, outerInTree, mends, outerBelongs⟩ :=
      exists_mends_of_mem_fixes isOther
    have ordered := (innerBelongs.inside_throw wellFormed innerInTree).1.ordered
    rcases wellFormed.precedes_or outerInTree innerInTree with rfl | before | after
    · have starts := inside.1
      rw [innerBelongs.span_eq outerBelongs] at starts
      exact absurd starts (Nat.lt_irrefl _)
    · rcases mends.apart_or_wrapsAround wellFormed outerInTree innerInTree before hasFix
        innerBelongs with apart | wraps
      · have reaches := inside.2
        omega
      · exact ⟨inner, innerInTree, innerBelongs, outer, outerInTree, outerFinding, found, wraps⟩
    · have nested := innerBelongs.nests wellFormed innerInTree outerInTree after outerBelongs
      exact absurd (nested.start_lt ordered) (Nat.lt_asymm inside.1)
  · rintro ⟨inner, innerInTree, belongs, outer, outerInTree, outerFinding, found, wraps⟩
    obtain ⟨template, throws, -, inTemplate, hasFix⟩ := wraps.encloses
    have templateInTree := SourceTree.mem_nodes_of_thrown? outerInTree throws
    exact ⟨NoThrowLiteral.wrap tree template, List.mem_filterMap.mpr ⟨outerFinding, found, hasFix⟩,
      belongs.inside_of_mem_subtree wellFormed templateInTree rfl inTemplate⟩

open Classical in
/-- A pass over a well-formed tree skips exactly what is nested. Every fix belongs to the one
throw that its finding is about, no two fixes start at the same offset, and a fix is skipped
exactly if the throw that it belongs to stands inside a template that is thrown itself and
that one of the findings wraps. All other fixes are applied. -/
theorem applyFixes_skips_only_nested (linter : Linter Rule) (built : linter.IsBuilt)
    (distinct : linter.ruleIds.Nodup) (tree : SourceTree) (wellFormed : tree.WellFormed) :
    let diagnostics := linter.lintTree tree
    let fixes := diagnostics.filterMap (·.fix)
    let applied := fixes.filter fun fix => ¬fix.IsShadowed tree diagnostics
    let skipped := fixes.filter fun fix => fix.IsShadowed tree diagnostics
    let splice := applyFixes tree.source diagnostics
    (∀ diagnostic ∈ diagnostics, ∀ fix ∈ diagnostic.fix,
        ∃ node ∈ tree.nodes, diagnostic ∈ linter.findingsAt tree node ∧ fix.BelongsTo node ∧
          ∀ other ∈ tree.nodes, fix.BelongsTo other → other = node) ∧
      (fixes.Pairwise fun left right => left.span.start < right.span.start) ∧
      Splice.chosen tree.source.toList fixes = applied ∧
      splice.output.toList = Splice.replaceAll tree.source.toList applied ∧
      splice.applied = applied.length ∧
      splice.skipped = skipped.length := by
  intro diagnostics fixes applied skipped splice
  have valid : ∀ fix ∈ fixes, fix.span.Valid tree.source.toList := by
    intro fix member
    obtain ⟨-, -, -, node, inTree, -, belongs⟩ := exists_mends_of_mem_fixes member
    exact (belongs.inside_throw wellFormed inTree).1
  have inBounds : ∀ fix ∈ fixes, fix.isInBounds tree.source.toList = true :=
    fun fix member => Fix.isInBounds_of_valid (valid fix member)
  have ordered : ∀ fix ∈ fixes, fix.span.start ≤ fix.span.stop :=
    fun fix member => (valid fix member).ordered
  have nests : fixes.Pairwise Fix.Nests := pairwise_nests built distinct wellFormed
  have chosen : Splice.chosen tree.source.toList fixes = applied := by
    rw [Splice.chosen_of_nests inBounds ordered nests]
    refine List.filter_congr fun fix member => ?_
    rw [decide_eq_decide, exists_inside_iff_isShadowed wellFormed member]
  have counted : splice.applied = applied.length := by
    rw [← chosen]
    exact Splice.applied_ofFixes
  refine ⟨?_, ?_, chosen, ?_, counted, ?_⟩
  · intro diagnostic found fix hasFix
    have isSome := Option.isSome_of_eq_some hasFix
    obtain ⟨node, inTree, foundAt⟩ := built.exists_mem_findingsAt found isSome
    have belongs := (mends_of_mem_findingsAt foundAt isSome).belongsTo hasFix
    refine ⟨node, inTree, foundAt, belongs, ?_⟩
    intro other otherInTree otherBelongs
    exact otherBelongs.unique wellFormed otherInTree inTree belongs
  · exact nests.imp_of_mem fun {left right} leftIn _ nested =>
      nested.start_lt (ordered left leftIn)
  · rw [← chosen]
    exact Splice.output_eq_replaceAll ordered
  · have all : splice.applied + splice.skipped = fixes.length :=
      Splice.applied_add_skipped_ofFixes
    have parts := List.length_eq_length_filter_add (l := fixes)
      (fun fix => decide (fix.IsShadowed tree diagnostics))
    simp only [← decide_not] at parts
    have skippedPart : skipped.length + applied.length = fixes.length := parts.symm
    omega

end Linter

/-! ### A sample -/

namespace Sample

/-- A term on the first line. -/
def term (start stop : Nat) (form : Form Term) : Term :=
  .node ⟨⟨start, stop⟩, ⟨1, start + 1⟩⟩ form

/-- A text with a thrown template that has a throw inside, and one more throw behind it. -/
def nestedThrows : SourceTree where
  source := "throw `é$\x7b() => \x7b throw 1; \x7d\x7d`; throw new Error('a');"
  root := term 0 54 (.program [
    term 0 32 (.throwing (some (term 6 31 (.template [
      term 11 29 (.other "arrow_function" [
        term 19 27 (.throwing (some (term 25 26 (.literal (.number "1")))))])])))),
    term 33 54 (.throwing (some (term 39 53 (.construction
      (term 43 48 (.identifier "Error")) [term 49 52 (.literal (.string "a"))]))))])
  hasErrors := false

/-- All rules that have fixes. -/
def fixers : Linter Rule :=
  ((Linter.empty.add (.noThrowLiteral .defaults) .error).add (.noGenericError .defaults) .error).add
    (.requireCustomError .defaults) .warn

end Sample

open Classical in
/-- The throw inside the template waits for the next pass, and the other two are fixed. -/
theorem Linter.applyFixes_skips_only_nested_sample :
    let tree := Sample.nestedThrows
    let diagnostics := Sample.fixers.lintTree tree
    let outer : Fix := ⟨⟨6, 31⟩, "new Error(`é$\x7b() => \x7b throw 1; \x7d\x7d`)"⟩
    let inner : Fix := ⟨⟨25, 26⟩, "new Error(1)"⟩
    let last : Fix := ⟨⟨43, 48⟩, "CustomError"⟩
    (Sample.fixers.IsBuilt ∧ Sample.fixers.ruleIds.Nodup ∧ tree.WellFormed) ∧
      diagnostics.filterMap (·.fix) = [outer, inner, last] ∧
      inner.IsShadowed tree diagnostics ∧
      ¬outer.IsShadowed tree diagnostics ∧
      ¬last.IsShadowed tree diagnostics := by
  intro tree diagnostics outer inner last
  have built : Sample.fixers.IsBuilt := .add _ _ (.add _ _ (.add _ _ .empty))
  have distinct : Sample.fixers.ruleIds.Nodup := by decide
  have wellFormed : tree.WellFormed := by decide +kernel
  have found : diagnostics.filterMap (·.fix) = [outer, inner, last] := by decide +kernel
  have taken : Splice.chosen tree.source.toList [outer, inner, last] = [outer, last] := by
    rw [Splice.chosen, List.mergeSort_of_pairwise (by decide)]
    decide +kernel
  obtain ⟨-, -, chosen, -⟩ :=
    applyFixes_skips_only_nested Sample.fixers built distinct tree wellFormed
  rw [found, taken] at chosen
  have verdict : ∀ fix ∈ [outer, inner, last],
      fix ∈ [outer, last] ↔ ¬fix.IsShadowed tree diagnostics := by
    intro fix member
    rw [chosen, List.mem_filter, decide_eq_true_eq]
    exact and_iff_right member
  refine ⟨⟨built, distinct, wellFormed⟩, found, ?_, ?_, ?_⟩
  · by_contra free
    exact absurd ((verdict inner (by decide)).mpr free) (by decide)
  · exact (verdict outer (by decide)).mp (by decide)
  · exact (verdict last (by decide)).mp (by decide)

end ErrorLint
