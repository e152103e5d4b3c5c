/-
This file says when a fix runs into its neighbours. A fix puts a text between two others
and leaves no space, so if a letter meets a letter, two tokens become one. Behind a fix this
cannot happen. A fix that renames a class replaces a whole name, and where names are as long
as they can be, no letter stands beside one; a fix that wraps a literal ends with a
parenthesis. In front it can happen in one way only: the wrapped literal begins with the
word `new`, and a literal may stand directly behind the keyword that throws it.
-/

import ErrorLint.Proofs.Fix.Growth
import ErrorLint.Proofs.Fix.Nesting
import ErrorLint.Unicode.Category

namespace ErrorLint

/-! ### Neighbours -/

namespace Text

/-- The letters and digits of Unicode. -/
def lettersAndDigits : Unicode.CharSet :=
  Unicode.categories ["Lu", "Ll", "Lt", "Lm", "Lo", "Nd"]

/-- The characters of an identifier: letters, digits, the underscore and the dollar sign. -/
def isIdentifierChar (char : Char) : Bool :=
  -- The table is read only for what lies beyond ASCII.
  char.isAlphanum || char = '_' || char = '$' ||
    (0x80 ≤ char.toNat && lettersAndDigits.holds char.toNat)

/-- Whether the character that ends at an offset is one of an identifier. -/
def joinsBefore (text : List Char) (offset : Nat) : Bool :=
  ((splitAt? text offset).bind (·.1.getLast?)).any isIdentifierChar

/-- Whether the character that starts at an offset is one of an identifier. -/
def joinsAfter (text : List Char) (offset : Nat) : Bool :=
  ((splitAt? text offset).bind (·.2.head?)).any isIdentifierChar

end Text

/-- A concrete node that is an identifier. -/
def Concrete.isName (tree : Concrete) : Bool :=
  tree.kind = .identifier || tree.kind = .typeIdentifier || tree.kind = .undefinedName

/-- Names are maximal in a text: no character of an identifier stands directly before or
after one. -/
def Concrete.HasMaximalNames (text : List Char) (tree : Concrete) : Prop :=
  ∀ inner ∈ tree.nodes, inner.isName = true →
    Text.joinsBefore text inner.span.start = false ∧ Text.joinsAfter text inner.span.stop = false

instance (text : List Char) (tree : Concrete) : Decidable (tree.HasMaximalNames text) :=
  inferInstanceAs (Decidable (∀ inner ∈ tree.nodes, inner.isName = true → _ ∧ _))

namespace Fix

/-- A fix glues its replacement to what stands in front of it: an identifier character meets
an identifier character. -/
def GluesFront (text : List Char) (fix : Fix) : Prop :=
  Text.joinsBefore text fix.span.start = true ∧
    fix.replacement.toList.head?.any Text.isIdentifierChar = true

/-- A fix glues its replacement to what stands behind it. -/
def GluesBack (text : List Char) (fix : Fix) : Prop :=
  Text.joinsAfter text fix.span.stop = true ∧
    fix.replacement.toList.getLast?.any Text.isIdentifierChar = true

end Fix

/-! ### Names -/

/-- Only a name is planned as an identifier. -/
theorem Lowering.isName_of_plan {text : List Char} {tree : Concrete} {name : String}
    (planned : plan text tree = .identifier name) : tree.isName = true := by
  unfold plan at planned
  split at planned
  case h_3 =>
    split at planned
    · split at planned <;> cases planned
    · cases planned
  case h_4 =>
    split at planned
    · split at planned <;> cases planned
    · cases planned
  case h_12 kind | h_13 kind | h_14 kind =>
    rw [Concrete.isName, kind]
    rfl
  case h_15 | h_16 => split at planned <;> cases planned
  all_goals cases planned

/-- An identifier of the tree has the span of a name. -/
theorem SourceTree.exists_name_of_mem_nodes {parser : Parser} {source : String}
    {dialect : Dialect} {node : Node} {name : String}
    (inTree : node ∈ (SourceTree.ofSource parser source dialect).nodes)
    (named : node.term.form = .identifier name) :
    ∃ inner ∈ (parser source dialect).root.nodes, inner.isName = true ∧
      node.span = inner.span := by
  obtain ⟨inner, inside, equal⟩ := Lowering.exists_node_of_mem_preorder (term_mem_preorder inTree)
  rw [Lowering.lower_eq] at equal
  have planned : Lowering.plan source.toList inner.unwrap = .identifier name := by
    rw [equal] at named
    cases plan : Lowering.plan source.toList inner.unwrap <;> rw [plan] at named <;> cases named
    rfl
  refine ⟨inner.unwrap, Concrete.mem_nodes_trans (Concrete.unwrap_mem_nodes inner) inside,
    Lowering.isName_of_plan planned, ?_⟩
  rw [Node.span, equal]
  rfl

/-- Where names are maximal, the name of a class can be replaced by anything. -/
theorem Node.not_glues_callee {parser : Parser} {source : String} {dialect : Dialect}
    (maximal : (parser source dialect).root.HasMaximalNames source.toList)
    {operand callee : Node} {name : String}
    (inTree : operand ∈ (SourceTree.ofSource parser source dialect).nodes)
    (constructs : operand.directConstructor? = some (callee, name)) (replacement : String) :
    ¬Fix.GluesFront source.toList ⟨callee.span, replacement⟩ ∧
      ¬Fix.GluesBack source.toList ⟨callee.span, replacement⟩ := by
  obtain ⟨arguments, -, named⟩ := directConstructor?_eq_some constructs
  have form : callee.term.form = .identifier name := by
    rw [← map_form, named]
    rfl
  obtain ⟨inner, inside, isName, same⟩ := SourceTree.exists_name_of_mem_nodes
    (SourceTree.mem_nodes_of_mem_children inTree (callee_mem_children constructs)) form
  obtain ⟨before, after⟩ := maximal inner inside isName
  rw [same]
  constructor
  · rintro ⟨joins, -⟩
    exact Bool.false_ne_true (before.symm.trans joins)
  · rintro ⟨joins, -⟩
    exact Bool.false_ne_true (after.symm.trans joins)

/-! ### Fixes -/

/-- A wrapped literal begins with a letter. -/
theorem NoThrowLiteral.head?_wrap (tree : SourceTree) (operand : Node) :
    (wrap tree operand).replacement.toList.head? = some 'n' := by
  rw [wrap, String.append_assoc, String.toList_append]
  rfl

/-- A wrapped literal ends with a parenthesis. -/
theorem NoThrowLiteral.getLast?_wrap (tree : SourceTree) (operand : Node) :
    (wrap tree operand).replacement.toList.getLast? = some ')' := by
  rw [wrap, String.toList_append, List.getLast?_append]
  rfl

/-- A proposal never glues behind. In front it glues exactly if it wraps a literal that stands
directly behind an identifier or a keyword. -/
theorem Proposal.glues_iff {parser : Parser} {source : String} {dialect : Dialect}
    (maximal : (parser source dialect).root.HasMaximalNames source.toList) {operand : Node}
    (inTree : operand ∈ (SourceTree.ofSource parser source dialect).nodes) {rule : RuleId}
    {report : Report}
    (proposal : Proposal (SourceTree.ofSource parser source dialect) operand rule report)
    {fix : Fix} (proposed : report.fix = some fix) :
    ¬fix.GluesBack source.toList ∧
      (fix.GluesFront source.toList ↔
        rule = .noThrowLiteral ∧ Text.joinsBefore source.toList fix.span.start = true) := by
  cases proposal with
  | wraps literal =>
    cases proposed
    constructor
    · rintro ⟨-, glues⟩
      rw [NoThrowLiteral.getLast?_wrap] at glues
      cases glues
    · rw [Fix.GluesFront, NoThrowLiteral.head?_wrap, and_comm]
      exact and_congr_left fun _ => iff_of_true rfl rfl
  | renames callee category constructs suggested =>
    cases proposed
    obtain ⟨front, back⟩ := Node.not_glues_callee maximal inTree constructs category.className
    refine ⟨back, iff_of_false front ?_⟩
    rintro ⟨isRule, -⟩
    cases isRule
  | suffixes callee name constructs unmarked =>
    cases proposed
    obtain ⟨front, back⟩ := Node.not_glues_callee maximal inTree constructs (name ++ "Error")
    refine ⟨back, iff_of_false front ?_⟩
    rintro ⟨isRule, -⟩
    cases isRule

/-- Fixes never glue behind. In front they glue exactly where a thrown literal stands directly
behind a character of an identifier, as it may behind the keyword: the fix then begins with
the word `new` and is read as one word with what stands before it. -/
theorem Linter.lintTree_glues_iff (linter : Linter Rule) (parser : Parser) (source : String)
    (dialect : Dialect) (maximal : (parser source dialect).root.HasMaximalNames source.toList) :
    ∀ diagnostic ∈ linter.lintTree (SourceTree.ofSource parser source dialect),
      ∀ fix ∈ diagnostic.fix,
        ¬fix.GluesBack source.toList ∧
          (fix.GluesFront source.toList ↔
            diagnostic.rule = .noThrowLiteral ∧
              Text.joinsBefore source.toList fix.span.start = true) := by
  intro diagnostic found fix hasFix
  obtain ⟨node, inTree, operand, report, throws, proposal, -, same⟩ :=
    exists_mends_of_mem_lintTree diagnostic found (Option.isSome_of_mem hasFix)
  exact proposal.glues_iff maximal (SourceTree.mem_nodes_of_thrown? inTree throws)
    (same.symm.trans hasFix)

/-! ### Samples -/

namespace Sample

/-- A text that throws a class and, directly behind the keyword, a literal. -/
def abuttingThrows : Concrete :=
  node "program" none 0 27 [
    node "throw_statement" none 0 18 [
      node "new_expression" none 6 17 [
        node "identifier" (some "constructor") 10 14 [],
        node "arguments" (some "arguments") 14 17 [node "number" none 15 16 []]]],
    node "throw_statement" none 19 27 [
      node "string" none 24 27 [node "string_fragment" none 25 26 []]]]

/-- The tree of a text in which nothing but a literal is thrown, directly behind the
keyword. -/
def abuttingThrow : Concrete :=
  node "program" none 0 8 [
    node "throw_statement" none 0 8 [
      node "string" none 5 8 [node "string_fragment" none 6 7 []]]]

end Sample

/-- The name is replaced without harm, and the literal is not. -/
theorem Linter.lintTree_glues_iff_sample :
    let source := "throw new Oops(1); throw'x'"
    let parser : Parser := fun _ _ => ⟨false, Sample.abuttingThrows⟩
    let renames : Fix := ⟨⟨10, 14⟩, "OopsError"⟩
    let wraps : Fix := ⟨⟨24, 27⟩, "new Error('x')"⟩
    (parser source .javascript).root.HasMaximalNames source.toList ∧
      (Sample.fixers.lintTree (SourceTree.ofSource parser source .javascript)).map
          (fun finding => (finding.rule, finding.fix)) =
        [(.requireCustomError, some renames), (.noThrowLiteral, some wraps)] ∧
      ¬renames.GluesFront source.toList ∧ ¬renames.GluesBack source.toList ∧
      wraps.GluesFront source.toList ∧ ¬wraps.GluesBack source.toList := by
  intro source parser renames wraps
  have maximal : (parser source .javascript).root.HasMaximalNames source.toList := by
    decide +kernel
  have found : (Sample.fixers.lintTree (SourceTree.ofSource parser source .javascript)).map
      (fun finding => (finding.rule, finding.fix)) =
        [(.requireCustomError, some renames), (.noThrowLiteral, some wraps)] := by
    decide +kernel
  have verdict : ∀ rule fix,
      (rule, some fix) ∈
          [(RuleId.requireCustomError, some renames), (.noThrowLiteral, some wraps)] →
        ¬fix.GluesBack source.toList ∧ (fix.GluesFront source.toList ↔
          rule = .noThrowLiteral ∧ Text.joinsBefore source.toList fix.span.start = true) := by
    rw [← found]
    intro rule fix member
    obtain ⟨finding, isFinding, equal⟩ := List.mem_map.mp member
    obtain ⟨rfl, hasFix⟩ := Prod.mk.inj equal
    exact lintTree_glues_iff Sample.fixers parser source .javascript maximal finding isFinding fix
      hasFix
  obtain ⟨renamesBack, renamesFront⟩ := verdict .requireCustomError renames (by decide)
  obtain ⟨wrapsBack, wrapsFront⟩ := verdict .noThrowLiteral wraps (by decide)
  refine ⟨maximal, found, ?_, renamesBack, ?_, wrapsBack⟩
  · rw [renamesFront]
    rintro ⟨isRule, -⟩
    cases isRule
  · rw [wrapsFront]
    exact ⟨rfl, by decide +kernel⟩

/-- The keyword and the inserted word become one, and the fixed text throws nothing any
more. -/
theorem Linter.fix_glues_to_keyword :
    let source := "throw'x'"
    let parser : Parser := fun _ _ => ⟨false, Sample.abuttingThrow⟩
    let linter := Linter.empty.add (Rule.noThrowLiteral .defaults) .error
    let diagnostics := linter.lintTree (SourceTree.ofSource parser source .javascript)
    (parser source .javascript).root.HasMaximalNames source.toList ∧
      (∃ diagnostic ∈ diagnostics, ∃ fix ∈ diagnostic.fix, fix.GluesFront source.toList) ∧
      (applyFixes source diagnostics).output = "thrownew Error('x')" := by
  intro source parser linter diagnostics
  have found : diagnostics.map (·.fix) = [some ⟨⟨5, 8⟩, "new Error('x')"⟩] := by decide +kernel
  have wraps : some ⟨⟨5, 8⟩, "new Error('x')"⟩ ∈ diagnostics.map (·.fix) := by
    rw [found]
    exact List.mem_singleton_self _
  obtain ⟨diagnostic, isFinding, hasFix⟩ := List.mem_map.mp wraps
  refine ⟨by decide +kernel, ⟨diagnostic, isFinding, _, hasFix, ?_, ?_⟩, by decide +kernel⟩
  · decide +kernel
  · decide +kernel

end ErrorLint
