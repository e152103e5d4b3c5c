/-
This file reads back whole documents. What is written is a list of lines, blank ones included,
and each line is read up to its end; so the reader gets the same lines, unless a heading is too
long or a value too deeply nested, and then it refuses the text. From the lines it gets the
same document, which means the table that was written, with the plain entries first.
-/

import ErrorLint.Proofs.Toml.Values

namespace ErrorLint.Toml

open StringStyle (dropBlanks)

variable {rest : List Char} {limit : Nat} {document : Document}

/-! ### The lines of a document -/

def Line.write : Line → List Char
  | .blank => ['\n']
  | .heading title => title.write
  | .assignment content => content.write

def Section.lines (part : Section) : List Line :=
  .heading part.heading :: part.assignments.map .assignment

/-- The lines that are written for a document. -/
def Document.lines (document : Document) : List Line :=
  document.assignments.map .assignment ++
    match document.sections with
    | [] => []
    | first :: rest =>
      (if document.assignments.isEmpty then [] else [.blank]) ++ first.lines ++
        rest.flatMap fun part => .blank :: part.lines

theorem flatMap_write_lines (part : Section) : part.lines.flatMap Line.write = part.write := by
  simp [Section.lines, Section.write, Line.write, List.flatMap_map]

theorem isEmpty_flatMap_write (assignments : List Assignment) :
    (assignments.flatMap Assignment.write).isEmpty = assignments.isEmpty := by
  cases assignments with
  | nil => rfl
  | cons assignment assignments => simp [Assignment.write]

theorem Document.write_eq (document : Document) :
    document.write = document.lines.flatMap Line.write := by
  rw [Document.write, Document.lines, List.flatMap_append, List.flatMap_map]
  cases document.sections with
  | nil => simp [Line.write]
  | cons first others =>
    simp only [isEmpty_flatMap_write]
    split <;> simp [List.flatMap_assoc, flatMap_write_lines, Line.write]

theorem ofLines_assignments (assignments : List Assignment) (lines : List Line) :
    Document.ofLines (assignments.map .assignment ++ lines) =
      ⟨assignments ++ (Document.ofLines lines).assignments, (Document.ofLines lines).sections⟩ := by
  induction assignments with
  | nil => rfl
  | cons assignment assignments inductionHypothesis =>
    rw [List.map_cons, List.cons_append, Document.ofLines, inductionHypothesis]
    rfl

theorem ofLines_section (part : Section) (lines : List Line) :
    Document.ofLines (part.lines ++ lines) =
      ⟨[], ⟨part.heading, part.assignments ++ (Document.ofLines lines).assignments⟩ ::
        (Document.ofLines lines).sections⟩ := by
  rw [Section.lines, List.cons_append, Document.ofLines, ofLines_assignments]

theorem ofLines_sections (parts : List Section) :
    Document.ofLines (parts.flatMap fun part => .blank :: part.lines) = ⟨[], parts⟩ := by
  induction parts with
  | nil => rfl
  | cons part parts inductionHypothesis =>
    rw [List.flatMap_cons, List.cons_append, Document.ofLines, ofLines_section,
      inductionHypothesis]
    simp

/-- The lines of a document make up the document again. -/
theorem ofLines_lines (document : Document) : Document.ofLines document.lines = document := by
  obtain ⟨assignments, sections⟩ := document
  rw [Document.lines, ofLines_assignments]
  cases sections with
  | nil => simp [Document.ofLines]
  | cons first others =>
    have body : Document.ofLines (first.lines ++ others.flatMap fun part => .blank :: part.lines) =
        ⟨[], first :: others⟩ := by
      rw [ofLines_section, ofLines_sections, List.append_nil]
    dsimp only
    split
    · rw [List.nil_append, body, List.append_nil]
    · rw [List.append_assoc, List.singleton_append, Document.ofLines, body, List.append_nil]

/-! ### Single lines -/

/-- The lines that are written: a heading has a key, and an assignment has a single one. -/
inductive Line.Regular : Line → Prop where
  | blank : Regular .blank
  | heading {title : Heading} (present : title.path ≠ []) : Regular (.heading title)
  | assignment (key : String) {value : TomlValue} (regular : value.Regular) :
    Regular (.assignment ⟨[key], value⟩)

/-- Whether a line keeps to a limit of nesting. -/
def Line.isShallow (limit : Nat) : Line → Bool
  | .blank => true
  | .heading title => title.path.length < limit
  | .assignment content => content.value.nesting < limit

theorem endOfLine_newline (rest : List Char) : endOfLine ('\n' :: rest) = some rest := by
  simp [endOfLine, endOfLine.lineBreak, dropBlanks, StringStyle.newline]

theorem ne_of_startsKey {first char : Char} (starts : startsKey first = true)
    (other : startsKey char = false) : first ≠ char := by
  rintro rfl
  rw [starts] at other
  cases other

/-- A line that begins with a key is not blank. -/
theorem endOfLine_eq_none {first : Char} (starts : startsKey first = true) (rest : List Char) :
    endOfLine (first :: rest) = none := by
  have noBreak : StringStyle.newline (first :: rest) = none :=
    StringStyle.newline_eq_none (ne_of_startsKey starts rfl) (ne_of_startsKey starts rfl) rest
  rw [endOfLine, dropBlanks_of_startsKey starts]
  split
  · rename_i empty
    cases empty
  · rename_i comment
    exact absurd (List.cons.inj comment).1 (ne_of_startsKey starts rfl)
  · simp [endOfLine.lineBreak, noBreak]

theorem readPath_heading {path : List String} (present : path ≠ []) (rest : List Char) :
    readPath limit (writePath path ++ ']' :: rest) =
      if path.length < limit then some (path, ']' :: rest) else none := by
  rw [readPath_writePath present (dropBlanks_writePath present _) (endsKey_cons rfl rest)]
  · rfl
  · exact nofun

/-- A heading is read back, unless it is too long. -/
theorem readLine_heading {heading : Heading} (present : heading.path ≠ []) (rest : List Char) :
    readLine limit (heading.write ++ rest) =
      if heading.path.length < limit then some (.heading heading, rest) else none := by
  obtain ⟨isItem, path⟩ := heading
  cases isItem with
  | true =>
    have text : Heading.write ⟨true, path⟩ ++ rest =
        '[' :: '[' :: (writePath path ++ ']' :: ']' :: '\n' :: rest) := by
      simp [Heading.write]
    rw [text, readLine, readPath_heading present]
    split
    · simp [expect, endOfLine_newline]
    · rfl
  | false =>
    have text : Heading.write ⟨false, path⟩ ++ rest =
        '[' :: (writePath path ++ ']' :: '\n' :: rest) := by
      simp [Heading.write]
    obtain ⟨first, others, written, starts⟩ := exists_writePath_eq_cons present
    rw [text, readLine, readPath_heading present]
    · split
      · simp [expect, endOfLine_newline]
      · rfl
    · rintro rest looks
      rw [written] at looks
      exact ne_of_startsKey starts rfl (List.cons.inj looks).1

/-- An assignment is read back, unless its value is nested too deeply. -/
theorem readLine_assignment (room : 1 < limit) (key : String) {value : TomlValue}
    (regular : value.Regular)
    (rest : List Char) :
    readLine limit (Assignment.write ⟨[key], value⟩ ++ rest) =
      if value.nesting < limit then some (.assignment ⟨[key], value⟩, rest) else none := by
  obtain ⟨first, others, written, starts⟩ := exists_writeKey_eq_cons key.toList
  have text : Assignment.write ⟨[key], value⟩ ++ rest =
      writeKey key.toList ++ (" = ".toList ++ (writeValue value ++ '\n' :: rest)) := by
    simp [Assignment.write, writePath]
  have visible : dropBlanks (Assignment.write ⟨[key], value⟩ ++ rest) =
      writeKey key.toList ++ (" = ".toList ++ (writeValue value ++ '\n' :: rest)) := by
    rw [text, written]
    exact dropBlanks_of_startsKey starts _
  have read := readAssignment_write room regular
    (readValue_writeValue room regular (limit - 1))
    (endsValue_cons (by decide) rest) visible
  have notBlank : endOfLine (Assignment.write ⟨[key], value⟩ ++ rest) = none := by
    rw [text, written]
    exact endOfLine_eq_none starts _
  have below : value.nesting < limit ↔ value.nesting ≤ limit - 1 :=
    Nat.lt_iff_le_pred (Nat.zero_lt_of_lt room)
  have notHeading : ∀ rest', Assignment.write ⟨[key], value⟩ ++ rest ≠ '[' :: rest' := by
    rintro rest' looks
    rw [text, written] at looks
    exact ne_of_startsKey starts rfl (List.cons.inj looks).1
  unfold readLine
  split
  · rename_i looks
    exact absurd looks (notHeading _)
  · rename_i looks
    exact absurd looks (notHeading _)
  · simp only [notBlank, read, below]
    split
    · simp [endOfLine_newline]
    · rfl

/-- A line is read back, if it keeps to the limit. -/
theorem Line.Regular.readLine_write (room : 1 < limit) {line : Line} (regular : line.Regular)
    (rest : List Char) :
    readLine limit (line.write ++ rest) =
      if line.isShallow limit then some (line, rest) else none := by
  cases regular with
  | blank => simp [readLine, Line.write, endOfLine_newline, Line.isShallow]
  | heading present =>
    simpa [Line.isShallow, Line.write] using readLine_heading present rest
  | assignment key regular =>
    simpa [Line.isShallow, Line.write] using readLine_assignment room key regular rest

/-- The text of a line begins neither with a blank nor with a byte order mark. -/
theorem Line.Regular.exists_write_eq_cons {line : Line} (regular : line.Regular) :
    ∃ first others, line.write = first :: others ∧
      (first ≠ ' ' ∧ first ≠ '\t') ∧ first ≠ '\ufeff' := by
  cases regular with
  | blank => exact ⟨_, _, rfl, by decide⟩
  | @heading title present =>
    refine ⟨'[', (Heading.write title).tail, ?_, by decide⟩
    rw [Line.write, Heading.write]
    split <;> rfl
  | @assignment key value regular =>
    obtain ⟨first, others, written, starts⟩ := exists_writeKey_eq_cons key.toList
    refine ⟨first, others ++ (" = ".toList ++ (writeValue value ++ ['\n'])), ?_,
      ⟨ne_of_startsKey starts rfl, ne_of_startsKey starts rfl⟩, ne_of_startsKey starts rfl⟩
    simp [Line.write, Assignment.write, writePath, written]

/-! ### Documents -/

theorem readLines_step {first : Char} {text others : List Char}
    (visible : dropBlanks text = first :: others) (fuel : Nat) :
    readLines limit (fuel + 1) text = (readLine limit (first :: others)).bind fun (line, rest) =>
      (readLines limit fuel rest).map (line :: ·) := by
  conv_lhs => unfold readLines
  rw [visible]
  refine Option.bind_congr fun read _ => ?_
  exact Option.map_eq_bind.symm

/-- The lines of a text are read back, if all of them keep to the limit. -/
theorem readLines_write (room : 1 < limit) {lines : List Line}
    (regular : ∀ line ∈ lines, line.Regular) {fuel : Nat}
    (enough : (lines.flatMap Line.write).length ≤ fuel) :
    readLines limit fuel (lines.flatMap Line.write) =
      if lines.all (Line.isShallow limit) then some lines else none := by
  induction lines generalizing fuel with
  | nil => cases fuel <;> rfl
  | cons line lines inductionHypothesis =>
    have lineRegular := regular line List.mem_cons_self
    obtain ⟨first, others, written, visible, -⟩ := lineRegular.exists_write_eq_cons
    have readFirst := lineRegular.readLine_write room (lines.flatMap Line.write)
    rw [List.flatMap_cons, written, List.cons_append] at enough ⊢
    rw [written, List.cons_append] at readFirst
    cases fuel with
    | zero => simp at enough
    | succ fuel =>
      have readRest := @inductionHypothesis
        (fun line inside => regular line (List.mem_cons_of_mem _ inside)) fuel
        (by simp only [List.length_cons, List.length_append] at enough; omega)
      rw [readLines_step (StringStyle.dropBlanks_of_head visible _), readFirst, List.all_cons]
      cases line.isShallow limit with
      | false => rfl
      | true =>
        simp only [if_true, Option.bind_some, readRest, Bool.true_and]
        split <;> rfl

/-- A document is read back, if all of its lines keep to the limit. -/
theorem read?_write (room : 1 < limit) (regular : ∀ line ∈ document.lines, line.Regular) :
    Document.read? limit document.write =
      if document.lines.all (Line.isShallow limit) then some document else none := by
  have noMark : (document.lines.flatMap Line.write).head? ≠ some '\ufeff' := by
    cases lines : document.lines with
    | nil => exact nofun
    | cons line lines =>
      obtain ⟨first, others, written, -, noMark⟩ :=
        (regular line (lines ▸ List.mem_cons_self)).exists_write_eq_cons
      rw [List.flatMap_cons, written]
      simpa using noMark
  rw [Document.read?, Document.write_eq, if_neg noMark,
    readLines_write room regular (Nat.le_refl _)]
  split
  · rw [Option.map_some, ofLines_lines]
  · rfl

/-! ### Tables -/

/-- The documents below a limit of nesting: so many keys stand in no heading, and so many
brackets and braces stand around each other in no value. -/
def Document.IsShallow (limit : Nat) (document : Document) : Prop :=
  (∀ assignment ∈ document.assignments, assignment.value.nesting < limit) ∧
    ∀ part ∈ document.sections, part.heading.path.length < limit ∧
      ∀ assignment ∈ part.assignments, assignment.value.nesting < limit

instance : Decidable (document.IsShallow limit) := inferInstanceAs (Decidable (_ ∧ _))

/-- What holds of all lines but the blank ones holds of all headings and assignments. -/
theorem forall_mem_lines {holds : Line → Prop} (blank : holds .blank) :
    (∀ line ∈ document.lines, holds line) ↔
      (∀ assignment ∈ document.assignments, holds (.assignment assignment)) ∧
        ∀ part ∈ document.sections, holds (.heading part.heading) ∧
          ∀ assignment ∈ part.assignments, holds (.assignment assignment) := by
  have inSection : ∀ part : Section, (∀ line ∈ part.lines, holds line) ↔
      holds (.heading part.heading) ∧
        ∀ assignment ∈ part.assignments, holds (.assignment assignment) := by
    intro part
    rw [Section.lines, List.forall_mem_cons, List.forall_mem_map]
  rw [Document.lines, List.forall_mem_append, List.forall_mem_map]
  refine and_congr_right fun _ => ?_
  cases document.sections with
  | nil => simp
  | cons first others =>
    have between : ∀ line ∈ if document.assignments.isEmpty then [] else [.blank], holds line := by
      split <;> simp [blank]
    dsimp only
    rw [List.forall_mem_append, List.forall_mem_append, and_iff_right between, inSection,
      List.forall_mem_flatMap, List.forall_mem_cons]
    simp only [List.forall_mem_cons, inSection, and_iff_right blank]

theorem all_isShallow_iff :
    document.lines.all (Line.isShallow limit) = true ↔ document.IsShallow limit := by
  rw [List.all_eq_true, @forall_mem_lines document (fun line => line.isShallow limit = true) rfl]
  simp [Document.IsShallow, Line.isShallow]

variable {entries : List (String × TomlValue)} {part : Section}

theorem regular_of_mem_plainAssignments (regular : ∀ entry ∈ entries, entry.2.Regular)
    {assignment : Assignment} (inside : assignment ∈ plainAssignments entries) :
    (Line.assignment assignment).Regular := by
  rw [plainAssignments_eq, List.mem_map] at inside
  obtain ⟨entry, member, rfl⟩ := inside
  exact .assignment _ (regular entry (List.mem_of_mem_filter member))

theorem mem_entrySections {path : List String} (inside : part ∈ entrySections path entries) :
    ∃ entry ∈ entries, part ∈ sectionsOf (path ++ [entry.1]) entry.2 := by
  induction entries with
  | nil => cases inside
  | cons entry entries inductionHypothesis =>
    rw [entrySections, List.mem_append] at inside
    obtain inside | inside := inside
    · exact ⟨entry, List.mem_cons_self, inside⟩
    · obtain ⟨other, member, inside⟩ := inductionHypothesis inside
      exact ⟨other, List.mem_cons_of_mem _ member, inside⟩

theorem mem_itemSections {path : List String} {items : List TomlValue}
    (inside : part ∈ itemSections path items) :
    ∃ entries, .table entries ∈ items ∧
      (part.assignments = plainAssignments entries ∨ part ∈ entrySections path entries) := by
  induction items with
  | nil => cases inside
  | cons item items inductionHypothesis =>
    cases item with
    | table entries =>
      rw [itemSections, List.mem_append, List.mem_cons] at inside
      obtain (rfl | below) | inside := inside
      · exact ⟨entries, List.mem_cons_self, .inl rfl⟩
      · exact ⟨entries, List.mem_cons_self, .inr below⟩
      · obtain ⟨entries, member, parts⟩ := inductionHypothesis inside
        exact ⟨entries, List.mem_cons_of_mem _ member, parts⟩
    | _ =>
      obtain ⟨entries, member, parts⟩ := inductionHypothesis inside
      exact ⟨entries, List.mem_cons_of_mem _ member, parts⟩

/-- The assignments of all sections of a value are to single keys. -/
theorem regular_of_mem_sectionsOf {value : TomlValue} (regular : value.Regular)
    {path : List String} (inside : part ∈ sectionsOf path value) {assignment : Assignment}
    (member : assignment ∈ part.assignments) : (Line.assignment assignment).Regular := by
  induction regular generalizing path part with
  | string => cases inside
  | boolean => cases inside
  | integer => cases inside
  | @array items regular inductionHypothesis =>
    rw [sectionsOf] at inside
    split at inside
    · obtain ⟨entries, item, same | below⟩ := mem_itemSections inside
      · rw [same] at member
        cases regular _ item with
        | table distinct regular => exact regular_of_mem_plainAssignments regular member
      · have inside : part ∈ sectionsOf path (.table entries) := by
          rw [sectionsOf]
          exact List.mem_append_right _ below
        exact inductionHypothesis _ item inside member
    · cases inside
  | @table entries distinct regular inductionHypothesis =>
    rw [sectionsOf, List.mem_append] at inside
    obtain own | below := inside
    · rw [ownSection] at own
      split at own
      · cases own
      · rw [List.mem_singleton] at own
        rw [own] at member
        exact regular_of_mem_plainAssignments regular member
    · obtain ⟨entry, entryMember, inside⟩ := mem_entrySections below
      exact inductionHypothesis entry entryMember inside member

theorem regular_lines (regular : (TomlValue.table entries).Regular) :
    ∀ line ∈ (Document.ofEntries entries).lines, line.Regular := by
  cases regular with
  | table distinct regular =>
    refine (forall_mem_lines .blank).2 ⟨fun _ => regular_of_mem_plainAssignments regular, ?_⟩
    intro part inside
    refine ⟨.heading (path_ne_of_mem_entrySections part inside), fun _ member => ?_⟩
    obtain ⟨entry, entryMember, inside⟩ := mem_entrySections inside
    exact regular_of_mem_sectionsOf (regular entry entryMember) inside member

/-- The document of a table is read back as the table with the plain entries first, unless it
goes beyond the limit of nesting. -/
theorem readTable?_writeTable (room : 1 < limit) (regular : (TomlValue.table entries).Regular) :
    readTable? limit (writeTable entries) =
      if (Document.ofEntries entries).IsShallow limit then
        some (TomlValue.plainEntries entries ++ TomlValue.headedEntries entries)
      else
        none := by
  rw [readTable?, writeTable, read?_write room (regular_lines regular)]
  simp only [all_isShallow_iff]
  split
  · exact entries?_ofEntries regular
  · rfl

end ErrorLint.Toml
