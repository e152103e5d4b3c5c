/-
This file reads back the values that stand after an equals sign or in an array. The reader
goes down one level for each bracket or brace, and it reads a value up to what follows it if
there are enough levels left, and otherwise nothing at all. The induction is on the value; the
items of an array and the entries of an inline table are read one after the other, with the
reader of one level less.
-/

import ErrorLint.Proofs.Toml.Keys
import ErrorLint.Proofs.Toml.Numbers
import ErrorLint.Proofs.Toml.Tables

namespace ErrorLint

namespace TomlValue

mutual

/-- How many brackets and braces stand around each other in a value that is written inline. -/
def nesting : TomlValue → Nat
  | .array items => itemsNesting items + 1
  | .table entries => entriesNesting entries + 1
  | _ => 0

def itemsNesting : List TomlValue → Nat
  | [] => 0
  | item :: rest => max item.nesting (itemsNesting rest)

def entriesNesting : List (String × TomlValue) → Nat
  | [] => 0
  | (_, value) :: rest => max value.nesting (entriesNesting rest)

end

end TomlValue

namespace Toml

open StringStyle (dropBlanks)

variable {rest : List Char} {limit depth : Nat}

theorem valueTexts_eq_map (items : List TomlValue) : valueTexts items = items.map writeValue := by
  induction items with
  | nil => rfl
  | cons item items inductionHypothesis => rw [valueTexts, inductionHypothesis, List.map_cons]

theorem endsValue_cons {char : Char} (ends : char = ',' ∨ char = ']' ∨ char = ' ' ∨ char = '\n')
    (rest : List Char) : EndsValue (char :: rest) := by
  rintro _ ⟨⟩
  exact ends

/-! ### The first character -/

/-- The characters that a value can begin with: they end no gap and close nothing. -/
def startsValue (char : Char) : Bool :=
  !(char = ' ' || char = '\t' || char = '\n' || char = '\r' || char = '#' || char = ']' ||
    char = '\x7d')

theorem exists_quotedText_eq_cons (text : List Char) :
    ∃ first others, quotedText text = first :: others ∧ (first = '"' ∨ first = '\'') := by
  rw [quotedText, StringStyle.write]
  generalize StringStyle.ofText text = style
  obtain ⟨escaped, multiline⟩ := style
  cases escaped <;> cases multiline
  · exact ⟨_, _, rfl, .inr rfl⟩
  · exact ⟨_, _, rfl, .inr rfl⟩
  · exact ⟨_, _, rfl, .inl rfl⟩
  · exact ⟨_, _, rfl, .inl rfl⟩

theorem exists_writeInteger_eq_cons (number : Int) :
    ∃ first others, writeInteger number = first :: others ∧ (first = '-' ∨ first.isDigit) := by
  rw [writeInteger_eq_signed]
  exact (isNumeral_toDigits _).exists_signed_eq_cons _

theorem exists_writeItems_eq_cons (items : List (List Char)) :
    ∃ others, writeItems items = '[' :: others := by
  unfold writeItems
  split <;> exact ⟨_, rfl⟩

theorem exists_writeInlineEntries_eq_cons (entries : List (List Char)) :
    ∃ others, writeInlineEntries entries = '\x7b' :: others := by
  unfold writeInlineEntries
  split <;> exact ⟨_, rfl⟩

theorem exists_writeValue_eq_cons {value : TomlValue} (regular : value.Regular) :
    ∃ first others, writeValue value = first :: others ∧ startsValue first = true := by
  cases regular with
  | string text =>
    obtain ⟨first, others, same, rfl | rfl⟩ := exists_quotedText_eq_cons text.toList
    · exact ⟨_, others, same, rfl⟩
    · exact ⟨_, others, same, rfl⟩
  | boolean truth =>
    cases truth
    · exact ⟨_, _, rfl, rfl⟩
    · exact ⟨_, _, rfl, rfl⟩
  | integer word =>
    obtain ⟨first, others, same, rfl | isDigit⟩ := exists_writeInteger_eq_cons _
    · exact ⟨_, others, same, rfl⟩
    · refine ⟨first, others, same, ?_⟩
      simp [startsValue, ne_of_isDigit isDigit]
  | array =>
    obtain ⟨others, same⟩ := exists_writeItems_eq_cons _
    exact ⟨_, others, same, rfl⟩
  | table =>
    obtain ⟨others, same⟩ := exists_writeInlineEntries_eq_cons _
    exact ⟨_, others, same, rfl⟩

/-! ### Values without others inside -/

theorem readScalar_quotedText (text : String) (ends : EndsValue rest) :
    readScalar (quotedText text.toList ++ rest) = some (.string text, rest) := by
  have read := read_quotedText text.toList ⟨ends.head?_ne (by decide), ends.head?_ne (by decide)⟩
  obtain ⟨first, others, same, quote⟩ := exists_quotedText_eq_cons text.toList
  rw [same, List.cons_append] at read ⊢
  unfold readScalar
  split
  · simp_all
  · simp_all
  · simp [read]

/-- What begins with a bracket or a brace has others inside. -/
theorem readScalar_of_bracket {first : Char} (bracket : first = '[' ∨ first = '\x7b') :
    readScalar (first :: rest) = none := by
  have noString : StringStyle.read (first :: rest) = none := by
    rw [StringStyle.read, opening_eq_none (by obtain rfl | rfl := bracket <;> decide)]
    rfl
  have noDateTime : DateTime.read (first :: rest) = none := by
    have other : first.isDigit = false := by obtain rfl | rfl := bracket <;> rfl
    simp [DateTime.read, Date.read, Time.read, boundedNumber_eq_none other]
  have noFloat : readFloat (first :: rest) = none := by obtain rfl | rfl := bracket <;> rfl
  have noInteger : readInteger (first :: rest) = none := by obtain rfl | rfl := bracket <;> rfl
  unfold readScalar
  split
  · simp_all
  · simp_all
  · simp [noString, noDateTime, noFloat, noInteger]

/-- What begins otherwise is read as a value without others inside. -/
theorem readValue_of_ne_bracket {first : Char} {text others : List Char}
    (same : text = first :: others) (notBracket : first ≠ '[' ∧ first ≠ '\x7b') :
    readValue limit depth (text ++ rest) = readScalar (text ++ rest) := by
  rw [same, List.cons_append]
  cases depth with
  | zero => rfl
  | succ depth =>
    unfold readValue
    split <;> simp_all

/-! ### Arrays -/

theorem dropGap_of_startsValue {first : Char} (starts : startsValue first = true) :
    dropGap false (first :: rest) = some (first :: rest) := by
  unfold dropGap
  split <;> simp_all [startsValue]

/-- No gap comes before a value. -/
theorem dropGap_writeValue {value : TomlValue} (regular : value.Regular) (rest : List Char) :
    dropGap false (writeValue value ++ rest) = some (writeValue value ++ rest) := by
  obtain ⟨first, more, same, starts⟩ := exists_writeValue_eq_cons regular
  rw [same]
  exact dropGap_of_startsValue starts

/-- The reader of one value, as far as there are levels left. -/
def ReadsBack (read : Reader TomlValue) (depth : Nat) (value : TomlValue) : Prop :=
  ∀ rest, EndsValue rest →
    read (writeValue value ++ rest) = if value.nesting ≤ depth then some (value, rest) else none

theorem ite_max_le {α : Type} (first second : Nat) (result : Option α) :
    (if max first second ≤ depth then result else none) =
      if first ≤ depth then if second ≤ depth then result else none else none := by
  simp only [Nat.max_le, ite_and]

/-- An item is read back, and what follows it decides whether there are more. -/
theorem readItems_step {read : Reader TomlValue} {value : TomlValue} (regular : value.Regular)
    (reads : ReadsBack read depth value) {text others : List Char} {mark : Char}
    (isMark : mark = ',' ∨ mark = ']')
    (reached : dropGap false text = some (writeValue value ++ mark :: others)) (fuel : Nat) :
    readItems read (fuel + 1) text =
      if value.nesting ≤ depth then
        if mark = ',' then
          (readItems read fuel others).map fun (items, rest) => (value :: items, rest)
        else
          some ([value], others)
      else
        none := by
  have ends : EndsValue (mark :: others) :=
    endsValue_cons (isMark.imp_right .inl) others
  obtain ⟨first, more, same, starts⟩ := exists_writeValue_eq_cons regular
  have notClosed : ∀ rest, writeValue value ++ mark :: others ≠ ']' :: rest := by
    rintro rest looks
    rw [same] at looks
    rw [(List.cons.inj looks).1] at starts
    cases starts
  rw [readItems, reached]
  dsimp only [Option.bind_eq_bind, Option.bind_some]
  split
  · rename_i closed
    exact absurd closed (notClosed _)
  · rw [reads _ ends]
    split
    · have stops : dropGap false (mark :: others) = some (mark :: others) := by
        obtain rfl | rfl := isMark <;> simp [dropGap]
      dsimp only [Option.bind_some]
      rw [stops]
      obtain rfl | rfl := isMark
      · simp only [Option.bind_some, if_true]
        cases readItems read fuel others <;> rfl
      · rfl
    · rfl

/-- Items with a line for each are read back one after the other. -/
theorem readItems_lines {read : Reader TomlValue} {items : List TomlValue}
    (regular : ∀ item ∈ items, item.Regular) (reads : ∀ item ∈ items, ReadsBack read depth item)
    {text : List Char} (written : text = items.flatMap
      (fun item => "\n    ".toList ++ writeValue item ++ [',']) ++ '\n' :: ']' :: rest)
    {fuel : Nat} (enough : text.length ≤ fuel) :
    readItems read fuel text =
      if TomlValue.itemsNesting items ≤ depth then some (items, rest) else none := by
  induction items generalizing text fuel with
  | nil =>
    cases fuel with
    | zero => simp [written] at enough
    | succ fuel =>
      rw [readItems, written]
      simp [dropGap, TomlValue.itemsNesting]
  | cons item items inductionHypothesis =>
    generalize after : items.flatMap (fun item => "\n    ".toList ++ writeValue item ++ [',']) ++
      '\n' :: ']' :: rest = others at inductionHypothesis
    have parts : text = ['\n', ' ', ' ', ' ', ' '] ++ (writeValue item ++ ',' :: others) := by
      rw [written, ← after]
      simp
    cases fuel with
    | zero => simp [parts] at enough
    | succ fuel =>
      have shorter : others.length ≤ fuel := by
        simp only [parts, List.length_append, List.length_cons] at enough
        omega
      have readRest := @inductionHypothesis
        (fun item inside => regular item (List.mem_cons_of_mem _ inside))
        (fun item inside => reads item (List.mem_cons_of_mem _ inside)) others rfl fuel shorter
      have itemRegular := regular item List.mem_cons_self
      have reached : dropGap false text = some (writeValue item ++ ',' :: others) := by
        rw [parts]
        simp [dropGap, dropGap_writeValue itemRegular]
      rw [readItems_step itemRegular (reads item List.mem_cons_self) (.inl rfl) reached, readRest,
        TomlValue.itemsNesting, ite_max_le, if_pos rfl]
      split
      · split <;> rfl
      · rfl

/-- An array is read back, if there are levels for its items. -/
theorem readItems_writeItems {read : Reader TomlValue} {items : List TomlValue}
    (regular : ∀ item ∈ items, item.Regular) (reads : ∀ item ∈ items, ReadsBack read depth item)
    {inside : List Char} (written : writeItems (items.map writeValue) = '[' :: inside)
    (rest : List Char) :
    readItems read (inside ++ rest).length (inside ++ rest) =
      if TomlValue.itemsNesting items ≤ depth then some (items, rest) else none := by
  obtain rfl : (writeItems (items.map writeValue)).tail = inside := congrArg List.tail written
  clear written
  -- The cases are those of the writer, which keeps a single item on the line.
  match items with
  | [] => simp [writeItems, readItems, dropGap, TomlValue.itemsNesting]
  | [item] =>
    have itemRegular := regular item List.mem_cons_self
    have parts : (writeItems ([item].map writeValue)).tail ++ rest =
        writeValue item ++ ']' :: rest := by
      simp [writeItems]
    obtain ⟨fuel, length⟩ : ∃ fuel, (writeValue item ++ ']' :: rest).length = fuel + 1 := by
      rw [List.length_append, List.length_cons]
      exact ⟨_, rfl⟩
    rw [parts, length, readItems_step itemRegular (reads item List.mem_cons_self) (.inr rfl)
      (dropGap_writeValue itemRegular _)]
    simp [TomlValue.itemsNesting]
  | first :: second :: others =>
    refine readItems_lines regular reads ?_ (Nat.le_refl _)
    simp [writeItems, List.flatMap_map]

/-! ### Inline tables -/

/-- No blank comes before a value. -/
theorem dropBlanks_writeValue {value : TomlValue} (regular : value.Regular) (rest : List Char) :
    dropBlanks (writeValue value ++ rest) = writeValue value ++ rest := by
  obtain ⟨first, more, same, starts⟩ := exists_writeValue_eq_cons regular
  rw [same]
  refine StringStyle.dropBlanks_of_head ⟨?_, ?_⟩ _ <;>
  · rintro rfl
    cases starts

/-- An assignment to a single key is read back, if there are levels for its value. -/
theorem readAssignment_write (room : 1 < limit) {read : Reader TomlValue} {key : String}
    {value : TomlValue} (regular : value.Regular) (reads : ReadsBack read depth value)
    (ends : EndsValue rest)
    {text : List Char} (starts : dropBlanks text =
      writeKey key.toList ++ (" = ".toList ++ (writeValue value ++ rest))) :
    readAssignment limit read text =
      if value.nesting ≤ depth then some (⟨[key], value⟩, rest) else none := by
  have path : readPath limit text = some ([key], '=' :: ' ' :: (writeValue value ++ rest)) := by
    rw [@readPath_writePath _ _ [key] (List.cons_ne_nil _ _) text starts (endsKey_cons rfl _)]
    · exact if_pos room
    · exact nofun
  have visible : dropBlanks (' ' :: (writeValue value ++ rest)) = writeValue value ++ rest :=
    dropBlanks_writeValue regular rest
  rw [readAssignment, path]
  simp only [Option.bind_eq_bind, Option.bind_some, expect, if_true, visible, reads _ ends]
  split <;> rfl

/-- The text of entries begins with a key. -/
theorem exists_entryTexts_eq_cons {entries : List (String × TomlValue)} (present : entries ≠ []) :
    ∃ first others, (", ".toList).intercalate (entryTexts entries) = first :: others ∧
      startsKey first = true := by
  obtain ⟨⟨key, value⟩, entries, rfl⟩ := List.exists_cons_of_ne_nil present
  obtain ⟨first, others, written, starts⟩ := exists_writeKey_eq_cons key.toList
  cases entries with
  | nil =>
    rw [entryTexts, entryTexts, List.intercalate_singleton, written]
    exact ⟨first, _, rfl, starts⟩
  | cons next entries =>
    rw [entryTexts, entryTexts, List.intercalate_cons_cons, written]
    exact ⟨first, _, rfl, starts⟩

theorem dropBlanks_entryTexts {entries : List (String × TomlValue)} (present : entries ≠ [])
    (rest : List Char) : dropBlanks ((", ".toList).intercalate (entryTexts entries) ++ rest) =
      (", ".toList).intercalate (entryTexts entries) ++ rest := by
  obtain ⟨first, others, written, starts⟩ := exists_entryTexts_eq_cons present
  rw [written]
  exact dropBlanks_of_startsKey starts _

/-- The entries of an inline table are read back one after the other. -/
theorem readInlineAssignments_write (room : 1 < limit) {read : Reader TomlValue}
    {entries : List (String × TomlValue)} (present : entries ≠ [])
    (regular : ∀ entry ∈ entries, entry.2.Regular)
    (reads : ∀ entry ∈ entries, ReadsBack read depth entry.2)
    {text : List Char} (starts : dropBlanks text =
      (", ".toList).intercalate (entryTexts entries) ++ ' ' :: '\x7d' :: rest)
    {fuel : Nat} (enough : text.length ≤ fuel) :
    readInlineAssignments limit read fuel text =
      if TomlValue.entriesNesting entries ≤ depth then
        some (entries.map fun entry => ⟨[entry.1], entry.2⟩, rest)
      else
        none := by
  induction entries generalizing text fuel with
  | nil => exact absurd rfl present
  | cons entry entries inductionHypothesis =>
    obtain ⟨key, value⟩ := entry
    have valueRegular := regular (key, value) List.mem_cons_self
    have valueReads := reads (key, value) List.mem_cons_self
    have shown : (dropBlanks text).length ≤ text.length := (List.dropWhile_sublist _).length_le
    -- After the last entry comes the brace, and after every other one a comma and a blank.
    cases entries with
    | nil =>
      rw [entryTexts, entryTexts, List.intercalate_singleton, List.append_assoc,
        List.append_assoc] at starts
      cases fuel with
      | zero =>
        simp only [starts, List.length_append, List.length_cons] at shown
        omega
      | succ fuel =>
        rw [readInlineAssignments,
          readAssignment_write room valueRegular valueReads (endsValue_cons (by decide) _) starts,
          TomlValue.entriesNesting, TomlValue.entriesNesting, Nat.max_zero]
        split
        · simp [dropBlanks]
        · rfl
    | cons next entries =>
      generalize after : (", ".toList).intercalate (entryTexts (next :: entries)) ++
        ' ' :: '\x7d' :: rest = others at inductionHypothesis
      have parts : dropBlanks text = writeKey key.toList ++ (" = ".toList ++
          (writeValue value ++ ',' :: ' ' :: others)) := by
        rw [starts, entryTexts, ← after, entryTexts, List.intercalate_cons_cons]
        simp
      have visible : dropBlanks (' ' :: others) = others := by
        rw [← after]
        exact dropBlanks_entryTexts (List.cons_ne_nil _ _) _
      have shorter : (' ' :: others).length < text.length := by
        simp only [parts, List.length_append, List.length_cons] at shown ⊢
        omega
      cases fuel with
      | zero => omega
      | succ fuel =>
        have readRest := @inductionHypothesis (List.cons_ne_nil _ _)
          (fun entry inside => regular entry (List.mem_cons_of_mem _ inside))
          (fun entry inside => reads entry (List.mem_cons_of_mem _ inside))
          (' ' :: others) visible fuel (by omega)
        rw [readInlineAssignments,
          readAssignment_write room valueRegular valueReads (endsValue_cons (by decide) _) parts,
          TomlValue.entriesNesting, ite_max_le]
        split
        · simp only [Option.bind_eq_bind, Option.bind_some,
            StringStyle.dropBlanks_of_head (show ',' ≠ ' ' ∧ ',' ≠ '\t' by decide), readRest]
          split <;> rfl
        · rfl

theorem writeInlineEntries_eq {entries : List (String × TomlValue)} (present : entries ≠ []) :
    writeInlineEntries (entryTexts entries) =
      '\x7b' :: ' ' :: (", ".toList).intercalate (entryTexts entries) ++ [' ', '\x7d'] := by
  obtain ⟨⟨key, value⟩, entries, rfl⟩ := List.exists_cons_of_ne_nil present
  rfl

theorem entriesOf?_single {entries : List (String × TomlValue)}
    (distinct : (entries.map Prod.fst).Nodup) :
    entriesOf? (entries.map fun entry => ⟨[entry.1], entry.2⟩) = some entries := by
  rw [entriesOf?, assignAll_single (by simpa using distinct), List.nil_append, Option.map_some,
    finishEntries_leaves]

/-- An inline table is read back, if there are levels for its values. -/
theorem readInlineTable_write (room : 1 < limit) {read : Reader TomlValue}
    {entries : List (String × TomlValue)}
    (distinct : (entries.map Prod.fst).Nodup) (regular : ∀ entry ∈ entries, entry.2.Regular)
    (reads : ∀ entry ∈ entries, ReadsBack read depth entry.2) {inside : List Char}
    (written : writeInlineEntries (entryTexts entries) = '\x7b' :: inside) (rest : List Char) :
    readInlineTable limit read (inside ++ rest) =
      if TomlValue.entriesNesting entries ≤ depth then some (.table entries, rest) else none := by
  obtain rfl : (writeInlineEntries (entryTexts entries)).tail = inside :=
    congrArg List.tail written
  clear written
  obtain rfl | present := eq_or_ne entries []
  · simp [entryTexts, writeInlineEntries, readInlineTable, dropBlanks, TomlValue.entriesNesting]
  · have starts := dropBlanks_entryTexts present (' ' :: '\x7d' :: rest)
    have reached : dropBlanks ((writeInlineEntries (entryTexts entries)).tail ++ rest) =
        (", ".toList).intercalate (entryTexts entries) ++ ' ' :: '\x7d' :: rest := by
      rw [← starts, writeInlineEntries_eq present]
      simp [dropBlanks]
    have readAll := readInlineAssignments_write room present regular reads starts (Nat.le_refl _)
    rw [readInlineTable, reached]
    split
    · rename_i closed
      obtain ⟨first, others, written, starts⟩ := exists_entryTexts_eq_cons present
      rw [written] at closed
      rw [(List.cons.inj closed).1] at starts
      cases starts
    · simp only [readAll, Option.bind_eq_bind]
      split
      · simp [entriesOf?_single distinct]
      · rfl

/-! ### All values -/

/-- A value is read back, up to what follows it, if there are levels for all that is nested in
it, and otherwise nothing is read. -/
theorem readValue_writeValue (room : 1 < limit) {value : TomlValue} (regular : value.Regular)
    (depth : Nat) :
    ReadsBack (readValue limit depth) depth value := by
  intro rest ends
  induction regular generalizing depth rest with
  | string text =>
    obtain ⟨first, others, same, quote⟩ := exists_quotedText_eq_cons text.toList
    rw [writeValue, readValue_of_ne_bracket same (by obtain rfl | rfl := quote <;> decide),
      readScalar_quotedText text ends]
    exact (if_pos (Nat.zero_le depth)).symm
  | boolean truth =>
    refine Eq.trans ?_ (if_pos (Nat.zero_le depth)).symm
    cases truth
    · exact readValue_of_ne_bracket rfl (by decide)
    · exact readValue_of_ne_bracket rfl (by decide)
  | integer number =>
    obtain ⟨first, others, same, begins⟩ := exists_writeInteger_eq_cons number.toInt
    have notBracket : first ≠ '[' ∧ first ≠ '\x7b' := by
      obtain rfl | isDigit := begins
      · decide
      · exact ⟨ne_of_isDigit isDigit rfl, ne_of_isDigit isDigit rfl⟩
    rw [writeValue, readValue_of_ne_bracket same notBracket, readScalar_writeInteger number ends]
    exact (if_pos (Nat.zero_le depth)).symm
  | @array items regular inductionHypothesis =>
    obtain ⟨others, same⟩ := exists_writeItems_eq_cons (items.map writeValue)
    rw [writeValue, valueTexts_eq_map, same, TomlValue.nesting]
    cases depth with
    | zero => exact readScalar_of_bracket (.inl rfl)
    | succ depth =>
      have read := readItems_writeItems regular
        (fun item inside => inductionHypothesis item inside depth) same rest
      rw [List.cons_append, readValue, read]
      simp only [Nat.add_le_add_iff_right]
      split <;> rfl
  | @table entries distinct regular inductionHypothesis =>
    obtain ⟨others, same⟩ := exists_writeInlineEntries_eq_cons (entryTexts entries)
    rw [writeValue, same, TomlValue.nesting]
    cases depth with
    | zero => exact readScalar_of_bracket (.inr rfl)
    | succ depth =>
      have read := readInlineTable_write room distinct regular
        (fun entry inside => inductionHypothesis entry inside depth) same rest
      rw [List.cons_append, readValue, read]
      simp only [Nat.add_le_add_iff_right]

end Toml

end ErrorLint
