/-
This file takes the walk over a tree apart. The walk is one loop over the nodes with a
loop over table positions inside, and both change one shared state: the memories of all
rules and the findings of all rules. Seen from one rule nothing of that is shared. The
table names each active rule that wants to see a shape once, in the order of
registration, so a rule is shown exactly the nodes that it wants to see, and what it
remembers at a node depends on the nodes before it and on nothing that another rule did.

The findings on a tree are therefore those of a plain double loop: for each node, for
each active rule, what the rule says there given the nodes with smaller numbers; and
then each rule's last word.
-/

import ErrorLint.Proofs.Rule.Proposal

namespace ErrorLint

variable {R M : Type} [RuleKind R M]

namespace Linter

/-! ### What holds of all reports holds of all findings -/

section

variable {linter : Linter R} {tree : SourceTree} {holds : Diagnostic → Prop}

theorem forall_mem_visit {node : Node} {walk : Walk M} {position : Nat}
    (reports : ∀ activation ∈ linter.activations, ∀ memory,
      ∀ report ∈ RuleKind.reports activation.rule tree memory node,
        holds (activation.diagnostic report))
    (before : ∀ diagnostic ∈ walk.diagnostics, holds diagnostic) :
    ∀ diagnostic ∈ (linter.visit tree node walk position).diagnostics, holds diagnostic := by
  intro diagnostic member
  unfold visit at member
  split at member
  · rename_i activation memory found _
    rcases List.mem_append.mp member with earlier | now
    · exact before diagnostic earlier
    · obtain ⟨report, reported, rfl⟩ := List.mem_map.mp now
      exact reports activation (List.mem_of_getElem? found) memory report reported
  · exact before diagnostic member

theorem forall_mem_step {node : Node} {walk : Walk M}
    (reports : ∀ activation ∈ linter.activations, ∀ memory,
      ∀ report ∈ RuleKind.reports activation.rule tree memory node,
        holds (activation.diagnostic report))
    (before : ∀ diagnostic ∈ walk.diagnostics, holds diagnostic) :
    ∀ diagnostic ∈ (linter.step tree walk node).diagnostics, holds diagnostic := by
  unfold step
  induction linter.dispatch.slots node.shape generalizing walk with
  | nil => exact before
  | cons position rest inductionHypothesis =>
    exact inductionHypothesis (forall_mem_visit reports before)

/-- What holds of every report of an active rule, whatever the rule remembers, holds of
every finding. The table decides only which reports are asked for. -/
theorem forall_mem_emit
    (reports : ∀ activation ∈ linter.activations, ∀ memory, ∀ node ∈ tree.nodes,
      ∀ report ∈ RuleKind.reports activation.rule tree memory node,
        holds (activation.diagnostic report))
    (closing : ∀ activation ∈ linter.activations, ∀ memory,
      ∀ report ∈ RuleKind.closingReports activation.rule memory,
        holds (activation.diagnostic report)) :
    ∀ diagnostic ∈ linter.emit tree, holds diagnostic := by
  have walked : ∀ nodes : List Node, (∀ node ∈ nodes, node ∈ tree.nodes) → ∀ walk : Walk M,
      (∀ diagnostic ∈ walk.diagnostics, holds diagnostic) →
        ∀ diagnostic ∈ (nodes.foldl (linter.step tree) walk).diagnostics, holds diagnostic := by
    intro nodes
    induction nodes with
    | nil => exact fun _ walk before => before
    | cons node rest inductionHypothesis =>
      intro inTree walk before
      refine inductionHypothesis (fun other later => inTree other (List.mem_cons_of_mem _ later)) _
        (forall_mem_step (fun activation active memory => ?_) before)
      exact reports activation active memory node (inTree node List.mem_cons_self)
  intro diagnostic member
  rcases List.mem_append.mp member with during | after
  · exact walked tree.nodes (fun _ inTree => inTree) linter.start
      (fun _ none => absurd none List.not_mem_nil) diagnostic during
  · obtain ⟨⟨activation, memory⟩, inZip, reported⟩ := List.mem_flatMap.mp after
    obtain ⟨report, inReports, rfl⟩ := List.mem_map.mp reported
    exact closing activation (List.of_mem_zip inZip).1 memory report inReports

end

/-- A finding with a fix mends a throw of the tree. -/
theorem exists_mends_of_mem_lintTree {linter : Linter Rule} {tree : SourceTree} :
    ∀ diagnostic ∈ linter.lintTree tree, diagnostic.fix.isSome = true →
      ∃ node ∈ tree.nodes, diagnostic.Mends tree node := by
  have emitted : ∀ diagnostic ∈ linter.emit tree, diagnostic.fix.isSome = true →
      ∃ node ∈ tree.nodes, diagnostic.Mends tree node := by
    apply forall_mem_emit
    · intro activation _ memory node inTree report reported hasFix
      exact ⟨node, inTree, Activation.mends_of_mem_reports reported hasFix⟩
    · intro activation _ memory report reported hasFix
      rw [Activation.diagnostic, Diagnostic.fix_ofReport,
        Rule.fix_eq_none_of_mem_closingReports reported] at hasFix
      cases hasFix
  exact fun diagnostic member => emitted diagnostic (List.mem_filter.mp member).1

end Linter

/-! ### The table -/

namespace Dispatch

@[simp]
theorem slots_nil (shape : Shape) : slots [] shape = [] := rfl

theorem slots_cons (present shape : Shape) (positions : List Nat) (rest : Dispatch) :
    slots ((present, positions) :: rest) shape =
      if shape = present then positions else slots rest shape := by
  unfold slots
  rw [List.lookup_cons]
  by_cases same : shape = present
  · simp [same]
  · rw [beq_false_of_ne same, if_neg same]

theorem slots_insert_self (position : Nat) (shape : Shape) (dispatch : Dispatch) :
    (dispatch.insert position shape).slots shape =
      if position ∈ dispatch.slots shape then dispatch.slots shape
      else dispatch.slots shape ++ [position] := by
  induction dispatch with
  | nil => simp [insert, slots_cons]
  | cons entry rest inductionHypothesis =>
    obtain ⟨present, positions⟩ := entry
    by_cases same : present = shape
    · subst same
      simp only [insert, slots_cons, if_true, List.contains_iff_mem]
    · have different : shape ≠ present := fun equal => same equal.symm
      simp only [insert, if_neg same, slots_cons, if_neg different, inductionHypothesis]

theorem slots_insert_of_ne (position : Nat) {shape asked : Shape} (different : asked ≠ shape)
    (dispatch : Dispatch) :
    (dispatch.insert position shape).slots asked = dispatch.slots asked := by
  induction dispatch with
  | nil => simp [insert, slots_cons, different]
  | cons entry rest inductionHypothesis =>
    obtain ⟨present, positions⟩ := entry
    by_cases same : present = shape
    · subst same
      simp only [insert, if_true, slots_cons, if_neg different]
    · simp only [insert, if_neg same, slots_cons, inductionHypothesis]

/-- Registering a position that is new for all shapes adds it to each of them once. -/
theorem slots_foldl_insert (position : Nat) (shapes : List Shape) (dispatch : Dispatch)
    (shape : Shape) :
    (shapes.foldl (fun dispatch shape => dispatch.insert position shape) dispatch).slots shape =
      if shape ∈ shapes ∧ position ∉ dispatch.slots shape then dispatch.slots shape ++ [position]
      else dispatch.slots shape := by
  induction shapes generalizing dispatch with
  | nil => simp
  | cons head rest inductionHypothesis =>
    rw [List.foldl_cons, inductionHypothesis]
    by_cases same : shape = head
    · subst same
      rw [slots_insert_self]
      by_cases present : position ∈ dispatch.slots shape <;> simp [present]
    · rw [slots_insert_of_ne position same]
      simp [same]

end Dispatch

/-! ### Linters that are built -/

namespace RuleKind

/-- Whether a rule is shown a node. -/
def wants (rule : R) (node : Node) : Bool := (visits rule).contains node.shape

/-- What a rule remembers after a list of nodes of which it is shown those it wants to
see. -/
def memoryOf (rule : R) (nodes : List Node) : M :=
  (nodes.filter (wants rule)).foldl (remember rule) (start rule)

theorem memoryOf_append_singleton (rule : R) (nodes : List Node) (node : Node) :
    memoryOf rule (nodes ++ [node]) =
      if wants rule node then remember rule (memoryOf rule nodes) node
      else memoryOf rule nodes := by
  unfold memoryOf
  rw [List.filter_append, List.foldl_append]
  by_cases wanted : wants rule node = true
  · simp [wanted]
  · simp [wanted]

end RuleKind

namespace Activation

/-- What an active rule says about a node, given the nodes with smaller numbers. -/
def findingsAt (activation : Activation R) (tree : SourceTree) (node : Node) :
    List Diagnostic :=
  if RuleKind.wants activation.rule node then
    (RuleKind.reports activation.rule tree
      (RuleKind.memoryOf activation.rule (tree.nodes.take node.id)) node).map activation.diagnostic
  else
    []

/-- What an active rule says after the whole tree. -/
def closingFindings (activation : Activation R) (tree : SourceTree) : List Diagnostic :=
  (RuleKind.closingReports activation.rule (RuleKind.memoryOf activation.rule tree.nodes)).map
    activation.diagnostic

section

variable {tree : SourceTree} {node : Node} {diagnostic : Diagnostic}

theorem exists_report_of_mem_findingsAt {activation : Activation R}
    (member : diagnostic ∈ activation.findingsAt tree node) :
    ∃ memory, ∃ report ∈ RuleKind.reports activation.rule tree memory node,
      activation.diagnostic report = diagnostic := by
  unfold findingsAt at member
  split at member
  · exact ⟨_, List.mem_map.mp member⟩
  · cases member

theorem rule_of_mem_findingsAt {activation : Activation R}
    (member : diagnostic ∈ activation.findingsAt tree node) :
    diagnostic.rule = RuleKind.id activation.rule := by
  obtain ⟨memory, report, -, rfl⟩ := exists_report_of_mem_findingsAt member
  rfl

theorem length_findingsAt_le_one {activation : Activation Rule} :
    (activation.findingsAt tree node).length ≤ 1 := by
  unfold findingsAt
  split
  · rw [List.length_map]
    exact Rule.length_reports_le_one _ _ _ _
  · exact Nat.zero_le _

theorem mends_of_mem_findingsAt {activation : Activation Rule}
    (member : diagnostic ∈ activation.findingsAt tree node)
    (hasFix : diagnostic.fix.isSome = true) : diagnostic.Mends tree node := by
  obtain ⟨memory, report, reported, rfl⟩ := exists_report_of_mem_findingsAt member
  exact mends_of_mem_reports reported hasFix

end

end Activation

namespace Linter

/-- What the active rules say about a node, in the order of their registration. -/
def findingsAt (linter : Linter R) (tree : SourceTree) (node : Node) : List Diagnostic :=
  linter.activations.flatMap (·.findingsAt tree node)

/-- A linter is built by registering rules, one after the other. Nothing else fills its
table. -/
inductive IsBuilt : Linter R → Prop where
  | empty : IsBuilt Linter.empty
  | add {linter : Linter R} (rule : R) (severity : Severity) (built : IsBuilt linter) :
    IsBuilt (linter.add rule severity)

/-- The positions, from a first one on, of the active rules that want to see a shape. -/
def positions (shape : Shape) (first : Nat) (activations : List (Activation R)) : List Nat :=
  ((activations.zipIdx first).filter fun entry =>
    (RuleKind.visits entry.1.rule).contains shape).map (·.2)

theorem positions_cons (shape : Shape) (first : Nat) (activation : Activation R)
    (rest : List (Activation R)) :
    positions shape first (activation :: rest) =
      if (RuleKind.visits activation.rule).contains shape then
        first :: positions shape (first + 1) rest
      else positions shape (first + 1) rest := by
  unfold positions
  rw [List.zipIdx_cons, List.filter_cons]
  split <;> rfl

theorem lt_of_mem_positions {shape : Shape} {first position : Nat}
    {activations : List (Activation R)}
    (member : position ∈ positions shape first activations) :
    position < first + activations.length := by
  obtain ⟨⟨activation, index⟩, inFilter, rfl⟩ := List.mem_map.mp member
  exact (List.mem_zipIdx (List.mem_filter.mp inFilter).1).2.1

theorem positions_append (shape : Shape) (first : Nat) (left right : List (Activation R)) :
    positions shape first (left ++ right) =
      positions shape first left ++ positions shape (first + left.length) right := by
  unfold positions
  rw [List.zipIdx_append, List.filter_append, List.map_append]

/-- The table of a linter that is built names the rules that want to see a shape, each once
and in the order of registration. -/
theorem IsBuilt.slots_eq {linter : Linter R} (built : linter.IsBuilt) (shape : Shape) :
    linter.dispatch.slots shape = positions shape 0 linter.activations := by
  induction built with
  | empty => rfl
  | @add linter rule severity built inductionHypothesis =>
    unfold Linter.add
    split
    · have fresh : linter.activations.length ∉ positions shape 0 linter.activations := by
        intro present
        have bound := lt_of_mem_positions present
        omega
      dsimp only
      rw [Dispatch.slots_foldl_insert, inductionHypothesis, positions_append, positions_cons,
        Nat.zero_add]
      by_cases wanted : shape ∈ RuleKind.visits rule
      · rw [if_pos ⟨wanted, fresh⟩, if_pos (List.contains_iff_mem.mpr wanted)]
        rfl
      · rw [if_neg fun both => wanted both.1,
          if_neg fun contained => wanted (List.contains_iff_mem.mp contained)]
        exact (List.append_nil _).symm
    · exact inductionHypothesis

/-! ### One node -/

/-- What one active rule adds to the walk at a node, from what it remembers. -/
def contribution (tree : SourceTree) (node : Node) (memory : Activation R → M)
    (activation : Activation R) : List Diagnostic :=
  if RuleKind.wants activation.rule node then
    (RuleKind.reports activation.rule tree (memory activation) node).map activation.diagnostic
  else
    []

/-- What an active rule remembers after a node. -/
def remembered (node : Node) (memory : Activation R → M) (activation : Activation R) : M :=
  if RuleKind.wants activation.rule node then
    RuleKind.remember activation.rule (memory activation) node
  else
    memory activation

/-- The rules from a position on see a node one after the other, and none of them changes
what the ones after it remember. -/
theorem foldl_visit_positions (linter : Linter R) (tree : SourceTree) (node : Node)
    (memory : Activation R → M) (done ahead : List (Activation R))
    (split : linter.activations = done ++ ahead) (doneMemories : List M)
    (sameLength : doneMemories.length = done.length) (diagnostics : List Diagnostic) :
    (positions node.shape done.length ahead).foldl (linter.visit tree node)
        ⟨doneMemories ++ ahead.map memory, diagnostics⟩ =
      ⟨doneMemories ++ ahead.map (remembered node memory),
        diagnostics ++ ahead.flatMap (contribution tree node memory)⟩ := by
  induction ahead generalizing done doneMemories diagnostics with
  | nil => simp [positions]
  | cons activation rest inductionHypothesis =>
    have splitNext : linter.activations = (done ++ [activation]) ++ rest := by
      rw [split, List.append_assoc, List.singleton_append]
    have next := inductionHypothesis (done ++ [activation]) splitNext
      (doneMemories ++ [remembered node memory activation]) (by simp [sameLength])
    simp only [List.append_assoc, List.singleton_append, List.length_append, List.length_singleton]
      at next
    rw [positions_cons, List.map_cons, List.map_cons, List.flatMap_cons,
      show (RuleKind.visits activation.rule).contains node.shape =
        RuleKind.wants activation.rule node from rfl]
    by_cases wanted : RuleKind.wants activation.rule node = true
    · have here : linter.activations[done.length]? = some activation := by
        rw [split, List.getElem?_append_right (Nat.le_refl _), Nat.sub_self]
        rfl
      have stored : (doneMemories ++ memory activation :: rest.map memory)[done.length]? =
          some (memory activation) := by
        rw [← sameLength, List.getElem?_append_right (Nat.le_refl _), Nat.sub_self]
        rfl
      have replaced : (doneMemories ++ memory activation :: rest.map memory).set done.length
          (RuleKind.remember activation.rule (memory activation) node) =
            doneMemories ++ RuleKind.remember activation.rule (memory activation) node ::
              rest.map memory := by
        rw [← sameLength, List.set_append_right _ _ (Nat.le_refl _), Nat.sub_self]
        rfl
      rw [if_pos wanted, List.foldl_cons, visit, here, stored]
      dsimp only
      rw [replaced]
      simp only [remembered, contribution, wanted, if_true] at next ⊢
      rw [next, List.append_assoc]
    · rw [if_neg wanted]
      simp only [remembered, contribution, wanted, Bool.false_eq_true, if_false] at next ⊢
      rw [next, List.nil_append]

/-- At a node every rule that wants to see it is shown it once. -/
theorem IsBuilt.step_eq {linter : Linter R} (built : linter.IsBuilt) (tree : SourceTree)
    (node : Node) (memory : Activation R → M) (diagnostics : List Diagnostic) :
    linter.step tree ⟨linter.activations.map memory, diagnostics⟩ node =
      ⟨linter.activations.map (remembered node memory),
        diagnostics ++ linter.activations.flatMap (contribution tree node memory)⟩ := by
  rw [step, built.slots_eq]
  exact foldl_visit_positions linter tree node memory [] linter.activations rfl [] rfl diagnostics

/-! ### The whole walk -/

/-- The nodes with smaller numbers are those that stand before. -/
theorem take_id_of_split {tree : SourceTree} {seen rest : List Node} {node : Node}
    (split : tree.nodes = seen ++ node :: rest) : tree.nodes.take node.id = seen := by
  have located : tree.nodes[seen.length]? = some node := by
    rw [split, List.getElem?_append_right (Nat.le_refl _), Nat.sub_self]
    rfl
  have numbered : node.id = seen.length := by
    rw [SourceTree.nodes, List.getElem?_map, List.getElem?_zipIdx] at located
    simp only [Option.map_map, Option.map_eq_some_iff] at located
    obtain ⟨term, -, rfl⟩ := located
    exact Nat.zero_add _
  rw [numbered, split, List.take_left]

theorem IsBuilt.foldl_step_eq {linter : Linter R} (built : linter.IsBuilt) {tree : SourceTree}
    (seen ahead : List Node) (split : tree.nodes = seen ++ ahead) (diagnostics : List Diagnostic) :
    ahead.foldl (linter.step tree)
        ⟨linter.activations.map (RuleKind.memoryOf ·.rule seen), diagnostics⟩ =
      ⟨linter.activations.map (RuleKind.memoryOf ·.rule tree.nodes),
        diagnostics ++ ahead.flatMap (linter.findingsAt tree)⟩ := by
  induction ahead generalizing seen diagnostics with
  | nil =>
    rw [List.append_nil] at split
    rw [split, List.foldl_nil, List.flatMap_nil, List.append_nil]
  | cons node rest inductionHypothesis =>
    have memories : remembered node (fun activation : Activation R =>
        RuleKind.memoryOf activation.rule seen) =
        fun activation => RuleKind.memoryOf activation.rule (seen ++ [node]) := by
      funext activation
      rw [RuleKind.memoryOf_append_singleton]
      rfl
    have findings : linter.activations.flatMap
        (contribution tree node (RuleKind.memoryOf ·.rule seen)) =
        linter.findingsAt tree node := by
      unfold findingsAt Activation.findingsAt contribution
      rw [take_id_of_split split]
    rw [List.foldl_cons, built.step_eq, memories, findings,
      inductionHypothesis (seen ++ [node]) (by rw [split, List.append_assoc]; rfl),
      List.flatMap_cons, List.append_assoc]

/-- The findings of a linter that is built are those of the plain double loop over nodes and
active rules, followed by the last words of the rules. -/
theorem IsBuilt.emit_eq {linter : Linter R} (built : linter.IsBuilt) (tree : SourceTree) :
    linter.emit tree =
      tree.nodes.flatMap (linter.findingsAt tree) ++
        linter.activations.flatMap (·.closingFindings tree) := by
  have walked := built.foldl_step_eq [] tree.nodes rfl []
  rw [List.nil_append] at walked
  unfold emit
  rw [show linter.start = ⟨linter.activations.map (RuleKind.memoryOf ·.rule []), []⟩ from rfl,
    walked]
  dsimp only
  rw [close, ← List.map_prod_left_eq_zip, List.flatMap_map]
  rfl

theorem fix_of_mem_closingFindings {linter : Linter Rule} {tree : SourceTree}
    {diagnostic : Diagnostic}
    (member : diagnostic ∈ linter.activations.flatMap (·.closingFindings tree)) :
    diagnostic.fix = none := by
  obtain ⟨activation, -, closing⟩ := List.mem_flatMap.mp member
  obtain ⟨report, reported, rfl⟩ := List.mem_map.mp closing
  exact Rule.fix_eq_none_of_mem_closingReports reported

/-- A finding with a fix is one about a node of the tree. -/
theorem IsBuilt.exists_mem_findingsAt {linter : Linter Rule} (built : linter.IsBuilt)
    {tree : SourceTree} {diagnostic : Diagnostic} (member : diagnostic ∈ linter.lintTree tree)
    (hasFix : diagnostic.fix.isSome = true) :
    ∃ node ∈ tree.nodes, diagnostic ∈ linter.findingsAt tree node := by
  have emitted := (List.mem_filter.mp member).1
  rw [built.emit_eq] at emitted
  rcases List.mem_append.mp emitted with during | after
  · exact List.mem_flatMap.mp during
  · rw [fix_of_mem_closingFindings after] at hasFix
    cases hasFix

end Linter

end ErrorLint
