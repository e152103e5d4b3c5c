/-
This file says what the rule about repeated messages reports. A throw counts as a use of a
message with a class if it can be seen so in the tree, without any walk: what is thrown is a
new object of a named class, the first argument is a string literal, and no option takes the
class out. For imported classes that depends on where the throw stands, since an import only
matters for the throws behind it.

The rule collects the uses on its way and reports at the end. Its findings are the throws
whose class and message are thrown often enough, each of them once, with the number of all
throws of the pair.
-/

import ErrorLint.Pattern.Matching
import ErrorLint.Proofs.Linter.Attribution
import ErrorLint.Proofs.Rule.Filing
import ErrorLint.Proofs.Tree.Table

namespace ErrorLint

/-! ### Names that are imported so far -/

/-- The node is an import that introduces the name. -/
def Node.Imports (node : Node) (name : String) : Prop :=
  ∃ bindings source, node.form = .importDeclaration bindings source ∧
    ∃ binding ∈ bindings, binding.name = name

namespace ImportedNames

/-- The names that imports among the nodes introduce. -/
def ofNodes (nodes : List Node) : ImportedNames := nodes.foldl record empty

theorem contains_record {imported : ImportedNames} {node : Node} {name : String} :
    (imported.record node).contains name = true ↔
      imported.contains name = true ∨ node.Imports name := by
  unfold record contains Node.Imports
  split
  · rename_i bindings source equal
    simp [equal]
  · rename_i notImport
    refine (or_iff_left ?_).symm
    rintro ⟨bindings, source, imports, -⟩
    exact notImport bindings source imports

theorem ofNodes_append_singleton (nodes : List Node) (node : Node) :
    ofNodes (nodes ++ [node]) = (ofNodes nodes).record node := by
  rw [ofNodes, List.foldl_append]
  rfl

theorem contains_ofNodes {nodes : List Node} {name : String} :
    (ofNodes nodes).contains name = true ↔ ∃ node ∈ nodes, node.Imports name := by
  induction nodes using List.reverseRecOn with
  | nil => simp [ofNodes, empty, contains]
  | append_singleton nodes node inductionHypothesis =>
    rw [ofNodes_append_singleton, contains_record, inductionHypothesis]
    simp [or_and_right, exists_or]

end ImportedNames

namespace SourceTree

variable {tree : SourceTree}

theorem mem_take_nodes {node : Node} {number : Nat} :
    node ∈ tree.nodes.take number ↔ node ∈ tree.nodes ∧ node.id < number := by
  simp only [List.mem_iff_getElem?, List.getElem?_take, ← exists_and_right]
  refine exists_congr fun position => ?_
  constructor
  · intro found
    split at found
    · rename_i bound
      exact ⟨found, id_of_getElem?_nodes found ▸ bound⟩
    · cases found
  · rintro ⟨found, bound⟩
    rw [if_pos (id_of_getElem?_nodes found ▸ bound), found]

theorem pairwise_id_nodes (tree : SourceTree) :
    tree.nodes.Pairwise fun first second => first.id < second.id := by
  refine List.pairwise_map.mp ?_
  rw [nodes_eq, Node.map_id_subtree]
  exact List.pairwise_lt_range'

end SourceTree

namespace RequireHardcodedErrorMessage

/-! ### Throws that count -/

/-- A node throws a new object of the class of a use, and the first argument is a string
literal with the message of the use, at its place. -/
def Throws (node : Node) (use : Use) : Prop :=
  ∃ operand callee argument rest,
    node.form = .throwing (some operand) ∧
    operand.form = .construction callee (argument :: rest) ∧
    callee.form = .identifier use.errorClass ∧
    argument.form = .literal (.string use.message) ∧
    argument.place = use.place

/-- A throw that counts as a use of a message with a class. Imported classes count, or none
of the imports with smaller numbers introduces the class. -/
structure Qualifies (options : Options) (tree : SourceTree) (node : Node) (use : Use) : Prop where
  throws : Throws node use
  specific : use.errorClass ≠ "Error"
  notIgnored : use.errorClass ∉ options.ignoreErrorClasses
  notImported : options.checkImportedErrors = true ∨
    ∀ other ∈ tree.nodes, other.id < node.id → ¬other.Imports use.errorClass

/-- The use that a node of a tree is, given the nodes with smaller numbers. -/
def useIn? (options : Options) (tree : SourceTree) (node : Node) : Option Use :=
  use? options (ImportedNames.ofNodes (tree.nodes.take node.id)) node

section

variable {options : Options} {tree : SourceTree} {node : Node} {use : Use}

theorem use?_eq_some_iff {imported : ImportedNames} :
    use? options imported node = some use ↔
      Throws node use ∧ options.skips imported use.errorClass = false := by
  simp only [use?, Option.bind_eq_bind, Option.bind_eq_some_iff, Node.thrown?_eq_some_iff]
  constructor
  · rintro ⟨operand, throws, ⟨callee, name⟩, direct, _, allowed, argument, first, message, text,
      made⟩
    obtain rfl := Option.some.inj made
    obtain ⟨arguments, constructs, named⟩ := Node.directConstructor?_eq_some_iff.mp direct
    rw [Node.firstArgument?, constructs] at first
    obtain ⟨rest, rfl⟩ := List.head?_eq_some_iff.mp first
    refine ⟨⟨operand, callee, argument, rest, throws, constructs, named,
      Node.stringValue?_eq_some_iff.mp text, rfl⟩, ?_⟩
    cases skipped : options.skips imported name with
    | false => rfl
    | true =>
      rw [skipped] at allowed
      cases allowed
  · rintro ⟨⟨operand, callee, argument, rest, throws, constructs, named, text, place⟩, notSkipped⟩
    have direct := Node.directConstructor?_eq_some_iff.mpr ⟨_, constructs, named⟩
    have first : operand.firstArgument? = some argument := by
      rw [Node.firstArgument?, constructs]
      rfl
    refine ⟨operand, throws, _, direct, (), by rw [notSkipped]; rfl, argument, first, _,
      Node.stringValue?_eq_some_iff.mpr text, ?_⟩
    rw [place]
    rfl

theorem skips_eq_false_iff {imported : ImportedNames} {name : String} :
    options.skips imported name = false ↔
      name ≠ "Error" ∧ name ∉ options.ignoreErrorClasses ∧
        (options.checkImportedErrors = true ∨ ¬imported.contains name = true) := by
  unfold Options.skips
  cases options.checkImportedErrors <;> simp [and_assoc]

/-- A throw counts if the rule takes it for a use. -/
theorem useIn?_eq_some_iff :
    useIn? options tree node = some use ↔ Qualifies options tree node use := by
  have imported : ¬(ImportedNames.ofNodes (tree.nodes.take node.id)).contains use.errorClass =
      true ↔ ∀ other ∈ tree.nodes, other.id < node.id → ¬other.Imports use.errorClass := by
    simp only [ImportedNames.contains_ofNodes, SourceTree.mem_take_nodes, not_exists, not_and,
      and_imp]
  rw [useIn?, use?_eq_some_iff, skips_eq_false_iff, imported]
  constructor
  · rintro ⟨throws, specific, notIgnored, notImported⟩
    exact ⟨throws, specific, notIgnored, notImported⟩
  · rintro ⟨throws, specific, notIgnored, notImported⟩
    exact ⟨throws, specific, notIgnored, notImported⟩

theorem any_useIn?_iff {errorClass message : String} :
    (useIn? options tree node).any (fun use =>
        use.errorClass = errorClass ∧ use.message = message) = true ↔
      ∃ place, Qualifies options tree node ⟨errorClass, message, place⟩ := by
  simp only [Option.any_eq_true, decide_eq_true_eq, useIn?_eq_some_iff]
  constructor
  · rintro ⟨⟨errorClass, message, place⟩, qualifies, rfl, rfl⟩
    exact ⟨place, qualifies⟩
  · rintro ⟨place, qualifies⟩
    exact ⟨_, qualifies, rfl, rfl⟩

instance (errorClass message : String) :
    Decidable (∃ place, Qualifies options tree node ⟨errorClass, message, place⟩) :=
  decidable_of_iff _ any_useIn?_iff

end

/-- How many throws of a tree count as uses of a message with a class. -/
def throwCount (options : Options) (tree : SourceTree) (errorClass message : String) : Nat :=
  tree.nodes.countP fun node => ∃ place, Qualifies options tree node ⟨errorClass, message, place⟩

/-! ### What the rule collects -/

/-- The throw that a node is, with the use as which it counts. -/
def sighting? (options : Options) (tree : SourceTree) (node : Node) : Option (Node × Use) :=
  (useIn? options tree node).map (node, ·)

/-- All throws of a tree that count, with their uses. -/
def sightings (options : Options) (tree : SourceTree) : List (Node × Use) :=
  tree.nodes.filterMap (sighting? options tree)

/-- Throws are filed by class and message, with the place of the message. -/
def byPair : Filing (Node × Use) Place where
  errorClass throw := throw.2.errorClass
  message throw := throw.2.message
  site throw := throw.2.place

section

variable {options : Options} {tree : SourceTree}

theorem mem_sightings {throw : Node × Use} :
    throw ∈ sightings options tree ↔
      throw.1 ∈ tree.nodes ∧ Qualifies options tree throw.1 throw.2 := by
  obtain ⟨node, use⟩ := throw
  simp only [sightings, sighting?, List.mem_filterMap, Option.map_eq_some_iff, Prod.mk.injEq,
    ← useIn?_eq_some_iff]
  constructor
  · rintro ⟨node, inTree, use, found, rfl, rfl⟩
    exact ⟨inTree, found⟩
  · rintro ⟨inTree, found⟩
    exact ⟨node, inTree, use, found, rfl, rfl⟩

theorem pairwise_sightings (options : Options) (tree : SourceTree) :
    (sightings options tree).Pairwise fun first second => first.1.id < second.1.id := by
  refine tree.pairwise_id_nodes.filterMap _ ?_
  intro first second smaller firstThrow firstFound secondThrow secondFound
  obtain ⟨_, -, rfl⟩ := Option.map_eq_some_iff.mp firstFound
  obtain ⟨_, -, rfl⟩ := Option.map_eq_some_iff.mp secondFound
  exact smaller

/-- The throws of a pair that are collected are all throws that count as its uses. -/
theorem length_ofPair_sightings (errorClass message : String) :
    (byPair.ofPair (sightings options tree) errorClass message).length =
      throwCount options tree errorClass message := by
  rw [Filing.ofPair, Filing.ofClass, ← List.countP_eq_length_filter, List.countP_filter, sightings,
    List.countP_filterMap, throwCount]
  refine List.countP_congr fun node _ => ?_
  rw [decide_eq_true_eq, ← any_useIn?_iff, sighting?, Option.map_map]
  cases useIn? options tree node with
  | none => rfl
  | some use =>
    simp only [Option.map_some, Option.getD_some, Function.comp_apply, Bool.and_eq_true,
      decide_eq_true_eq, Option.any_some]
    exact and_comm

theorem remember_of_not_wants {node : Node} (memory : Memory)
    (unwanted : ¬RuleKind.wants (Rule.requireHardcodedErrorMessage options) node = true) :
    (Rule.requireHardcodedErrorMessage options).remember memory node = memory := by
  have other : node.form.shape ∉ [Shape.importDeclaration, Shape.throwing] := by
    rw [← Node.shape_eq]
    exact fun visited => unwanted (List.contains_iff_mem.mpr visited)
  have recorded : memory.imported.record node = memory.imported := by
    unfold ImportedNames.record
    split
    · rename_i imports
      exact absurd (by simp [imports, Form.shape]) other
    · rfl
  have noUse : use? options memory.imported node = none := by
    refine Option.eq_none_iff_forall_ne_some.mpr fun use found => ?_
    obtain ⟨⟨operand, -, -, -, throws, -⟩, -⟩ := use?_eq_some_iff.mp found
    exact absurd (by simp [throws, Form.shape]) other
  rw [Rule.remember, collect, recorded, noUse]

/-- After some nodes of a tree the rule remembers the names that they import and the throws
among them that count. -/
theorem memoryOf_seen {seen rest : List Node} (split : tree.nodes = seen ++ rest) :
    RuleKind.memoryOf (Rule.requireHardcodedErrorMessage options) seen =
      ⟨ImportedNames.ofNodes seen, byPair.index (seen.filterMap (sighting? options tree))⟩ := by
  -- The node that is shown last is the one whose number says how many were shown before it.
  induction seen using List.reverseRecOn generalizing rest with
  | nil => rfl
  | append_singleton seen node inductionHypothesis =>
    rw [List.append_assoc, List.singleton_append] at split
    have shown : RuleKind.memoryOf (Rule.requireHardcodedErrorMessage options) (seen ++ [node]) =
        (Rule.requireHardcodedErrorMessage options).remember
          (RuleKind.memoryOf (Rule.requireHardcodedErrorMessage options) seen) node := by
      rw [RuleKind.memoryOf_append_singleton]
      split
      · rfl
      · rename_i unwanted
        exact (remember_of_not_wants _ unwanted).symm
    have found : sighting? options tree node =
        (use? options (ImportedNames.ofNodes seen) node).map (node, ·) := by
      rw [sighting?, useIn?, Linter.take_id_of_split split]
    rw [shown, inductionHypothesis split, Rule.remember, collect,
      ImportedNames.ofNodes_append_singleton, List.filterMap_append, List.filterMap_cons, found]
    cases use? options (ImportedNames.ofNodes seen) node with
    | none => simp
    | some use =>
      dsimp only [Option.map_some]
      rw [List.filterMap_nil, Filing.index_append_singleton]
      rfl

end

/-! ### What the rule reports -/

/-- The options of a rule that is created are accepted: its threshold is at least two. -/
theorem exists_options_of_create {engine : PatternEngine} {value : Option JsonValue} {rule : Rule}
    (created : Rule.create engine "require-hardcoded-error-message" value = .ok rule) :
    ∃ options, rule = .requireHardcodedErrorMessage options ∧ 2 ≤ options.threshold := by
  have activated :=
    (Rule.create_name engine .requireHardcodedErrorMessage value).symm.trans created
  obtain ⟨options, -, finished⟩ := bind_eq_ok_iff.mp activated
  split at finished
  · cases finished
  · rename_i highEnough
    obtain rfl := Except.ok.inj finished
    exact ⟨options, rfl, Nat.le_of_not_lt highEnough⟩

/-- The report of one use of a message that is thrown a number of times. -/
def repetition (use : Use) (count : Nat) : Report where
  place := use.place
  messageId := "repeatedErrorMessage"
  data := ⟨[("count", .count count), ("errorClass", .text use.errorClass),
    ("message", .text use.message)]⟩
  fix := none

theorem reportUse_eq (use : Use) (sites : List Place) :
    reportUse ⟨use.errorClass, use.message, sites⟩ use.place = repetition use sites.length := by
  have countFirst : "count" < "message" := by decide
  have classSecond : ¬"errorClass" < "count" := by decide
  have messageLast : "errorClass" < "message" := by decide
  simp [reportUse, repetition, Report.withData, Report.plain, MessageData.insert,
    MessageData.insertSorted, MessageData.empty, countFirst, classSecond, messageLast]

/-- The throws that count and whose pair is thrown often enough, pair by pair. -/
def repeatedThrows (options : Options) (tree : SourceTree) : List (Node × Use) :=
  byPair.repeatedItems options.threshold (sightings options tree)

section

variable {options : Options} {tree : SourceTree}

theorem mem_repeatedThrows {throw : Node × Use} :
    throw ∈ repeatedThrows options tree ↔
      (throw.1 ∈ tree.nodes ∧ Qualifies options tree throw.1 throw.2) ∧
        options.threshold ≤ throwCount options tree throw.2.errorClass throw.2.message := by
  rw [repeatedThrows, Filing.mem_repeatedItems, mem_sightings, length_ofPair_sightings]
  rfl

theorem pairwise_repeatedThrows :
    (repeatedThrows options tree).Pairwise (byPair.Precedes
      (fun throw => throw.1 ∈ tree.nodes ∧ Qualifies options tree throw.1 throw.2)
      (fun first second => first.1.id < second.1.id)) := by
  have ordered := byPair.pairwise_repeatedItems options.threshold (pairwise_sightings options tree)
  simp only [mem_sightings] at ordered
  exact ordered

/-- A throw counts as one use, so no throw is reported twice. -/
theorem nodup_id_repeatedThrows :
    ((repeatedThrows options tree).map fun throw => throw.1.id).Nodup := by
  refine List.pairwise_map.mpr (pairwise_repeatedThrows.imp_of_mem ?_)
  rintro ⟨node, use⟩ ⟨other, otherUse⟩ inFirst inSecond precedes same
  obtain ⟨⟨inTree, qualifies⟩, -⟩ := mem_repeatedThrows.mp inFirst
  obtain ⟨⟨otherInTree, otherQualifies⟩, -⟩ := mem_repeatedThrows.mp inSecond
  rw [SourceTree.nodes_eq] at inTree otherInTree
  obtain rfl : node = other := Node.eq_of_id_eq inTree otherInTree same
  rw [← useIn?_eq_some_iff] at qualifies otherQualifies
  obtain rfl : use = otherUse := Option.some.inj (qualifies.symm.trans otherQualifies)
  exact Filing.not_precedes_self (fun throw => Nat.lt_irrefl throw.1.id) precedes

/-- At the end the rule reports the throws whose pair is thrown often enough. -/
theorem closingReports_memoryOf :
    RuleKind.closingReports (Rule.requireHardcodedErrorMessage options)
        (RuleKind.memoryOf (Rule.requireHardcodedErrorMessage options) tree.nodes) =
      (repeatedThrows options tree).map fun throw =>
        repetition throw.2 (throwCount options tree throw.2.errorClass throw.2.message) := by
  rw [memoryOf_seen (List.append_nil tree.nodes).symm]
  refine (Filing.flatMap_repeated_index ..).trans ?_
  refine List.map_congr_left fun throw _ => ?_
  rw [← length_ofPair_sightings, ← List.length_map (f := byPair.site)]
  exact reportUse_eq throw.2 _

end

/-- On its way the rule says nothing, so its findings are what it reports at the end. -/
theorem emit_register_eq (options : Options) {severity : Severity}
    (enabled : severity.isEnabled = true) (tree : SourceTree) :
    (Linter.register [⟨Rule.requireHardcodedErrorMessage options, severity⟩]).emit tree =
      (repeatedThrows options tree).map fun throw =>
        Diagnostic.ofReport .requireHardcodedErrorMessage severity
          (repetition throw.2 (throwCount options tree throw.2.errorClass throw.2.message)) := by
  let activation : Activation Rule := ⟨.requireHardcodedErrorMessage options, severity⟩
  have active : activation.isEnabled = true := enabled
  have silent : ∀ node ∈ tree.nodes, activation.findingsAt tree node = [] := by
    intro node _
    unfold Activation.findingsAt
    split <;> rfl
  rw [Linter.emit_register_singleton active, List.flatMap_eq_nil_iff.mpr silent, List.nil_append,
    Activation.closingFindings, closingReports_memoryOf, List.map_map]
  rfl

/-- For all options that are accepted, the findings of the rule are the throws that count
and whose class and message are thrown at least as often as the threshold says. There is one
finding for each of them, at its message and without a fix, and it tells the message, the
class and the number of throws of the pair, which is at least two. The findings are ordered
by the class that is seen first, then by the message that is seen first with the class, then
by the number of the throw. -/
theorem emit_register_repetitions {engine : PatternEngine} {value : Option JsonValue} {rule : Rule}
    (created : Rule.create engine "require-hardcoded-error-message" value = .ok rule)
    {severity : Severity} (enabled : severity.isEnabled = true) (tree : SourceTree) :
    ∃ options, rule = .requireHardcodedErrorMessage options ∧ ∃ throws : List (Node × Use),
      (∀ node use, (node, use) ∈ throws ↔
        (node ∈ tree.nodes ∧ Qualifies options tree node use) ∧
          options.threshold ≤ throwCount options tree use.errorClass use.message) ∧
      (throws.map fun throw => throw.1.id).Nodup ∧
      throws.Pairwise (byPair.Precedes
        (fun throw => throw.1 ∈ tree.nodes ∧ Qualifies options tree throw.1 throw.2)
        (fun first second => first.1.id < second.1.id)) ∧
      (∀ throw ∈ throws, 2 ≤ throwCount options tree throw.2.errorClass throw.2.message) ∧
      (Linter.register [⟨rule, severity⟩]).emit tree = throws.map fun throw =>
        Diagnostic.ofReport .requireHardcodedErrorMessage severity
          (repetition throw.2 (throwCount options tree throw.2.errorClass throw.2.message)) := by
  obtain ⟨options, rfl, accepted⟩ := exists_options_of_create created
  exact ⟨options, rfl, repeatedThrows options tree,
    fun node use => mem_repeatedThrows, nodup_id_repeatedThrows, pairwise_repeatedThrows,
    fun throw member => Nat.le_trans accepted (mem_repeatedThrows.mp member).2,
    emit_register_eq options enabled tree⟩

end RequireHardcodedErrorMessage

namespace Sample

/-- A throw on a line, of an error class with one letter and a message with one letter. -/
def throwOn (line start : Nat) (errorClass message : String) : Term :=
  termOn line 1 start (start + 17) (.throwing (some (termOn line 7 (start + 6) (start + 16)
    (.construction (termOn line 11 (start + 10) (start + 11) (.identifier errorClass))
      [termOn line 13 (start + 12) (start + 15) (.literal (.string message))]))))

/-- Two error classes that take turns. Then one of them is imported, and thrown once more. -/
def takingTurns : SourceTree where
  source := "throw new A('x');\nthrow new B('y');\nthrow new A('x');\nthrow new B('y');\n" ++
    "import B from 'b';\nthrow new B('y');"
  root := termOn 1 1 0 108 (.program [
    throwOn 1 0 "A" "x", throwOn 2 18 "B" "y", throwOn 3 36 "A" "x", throwOn 4 54 "B" "y",
    termOn 5 1 72 90 (.importDeclaration [⟨.default, "B"⟩] "b"), throwOn 6 91 "B" "y"])
  hasErrors := false

end Sample

/-- With imported classes left out, the throw behind the import does not count, and the ones
before it do. The classes are reported one after the other. -/
theorem RequireHardcodedErrorMessage.emit_register_repetitions_sample :
    let value : JsonValue := ⟨.object [("checkImportedErrors", .boolean false)], by decide⟩
    let options : Options := ⟨2, [], false⟩
    Rule.create Pattern.engine "require-hardcoded-error-message" (some value) =
        .ok (.requireHardcodedErrorMessage options) ∧
      ((Linter.register [⟨Rule.requireHardcodedErrorMessage options, .warn⟩]).emit
          Sample.takingTurns).map (fun found => (found.line, found.data.count? "count")) =
        [(1, some 2), (3, some 2), (2, some 2), (4, some 2)] ∧
      ∃ throws : List (Node × Use), throws.length = 4 ∧
        (throws.map fun throw => throw.1.id).Nodup ∧
        ∀ throw ∈ throws, Qualifies options Sample.takingTurns throw.1 throw.2 ∧
          2 ≤ throwCount options Sample.takingTurns throw.2.errorClass throw.2.message := by
  intro value options
  have created : Rule.create Pattern.engine "require-hardcoded-error-message" (some value) =
      .ok (.requireHardcodedErrorMessage options) := rfl
  have found : ((Linter.register [⟨Rule.requireHardcodedErrorMessage options, .warn⟩]).emit
      Sample.takingTurns).map (fun found => (found.line, found.data.count? "count")) =
        [(1, some 2), (3, some 2), (2, some 2), (4, some 2)] := by
    decide +kernel
  obtain ⟨_, same, throws, reported, distinct, -, often, emitted⟩ :=
    @emit_register_repetitions _ _ _ created .warn rfl Sample.takingTurns
  obtain rfl := Rule.requireHardcodedErrorMessage.inj same
  have four := congrArg List.length found
  rw [emitted, List.length_map, List.length_map] at four
  exact ⟨created, found, throws, four, distinct, fun throw member =>
    ⟨((reported throw.1 throw.2).mp member).1.2, often throw member⟩⟩

end ErrorLint
