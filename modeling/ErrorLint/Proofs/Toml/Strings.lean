/-
This file reads back the strings that are written. There are four styles, and the reader of a
style goes through the text in pieces: a character that stands for itself, an escape, a
newline, and, over several lines, a run of quotes. A code of a text is what such pieces can
spell, with the number of quotes that have just been passed, since no three of them may stand
in a row. The reader of a style takes a code back to its text, and each of the styles that a
writer chooses writes a code.
-/

import ErrorLint.Toml.Quoted
import Mathlib.Data.List.TakeWhile

namespace ErrorLint.Toml

namespace StringStyle

/-! ### Spellings and codes -/

/-- The spelling of a character inside a string: it is read in one piece, and does not look
like a quote or, for another character, like a newline. -/
structure Spells (style : StringStyle) (char first : Char) (others : List Char) : Prop where
  reads : ∀ rest, style.part (first :: others ++ rest) = some ([char], rest)
  notQuote : first ≠ style.quote
  notReturn : first ≠ '\r'
  newline : first = '\n' → char = '\n'

/-- The codes of a text inside a string, where `quotes` quotes have just been passed. Over
several lines up to two quotes in a row stand for themselves. -/
inductive Coded (style : StringStyle) : (quotes : Nat) → (text code : List Char) → Prop where
  | nil {quotes : Nat} (few : quotes ≤ 2) : Coded style quotes [] []
  | quote {quotes : Nat} {text code : List Char} (multiline : style.multiline = true)
    (rest : Coded style (quotes + 1) text code) :
    Coded style quotes (style.quote :: text) (style.quote :: code)
  | char {quotes : Nat} {char first : Char} {others text code : List Char} (few : quotes ≤ 2)
    (spells : style.Spells char first others) (rest : Coded style 0 text code) :
    Coded style quotes (char :: text) (first :: others ++ code)

variable {style : StringStyle} {quotes : Nat} {text code rest : List Char}

/-! ### Reading codes -/

/-- On one line a code is read up to the closing quote. -/
theorem Coded.restOfLine (coded : style.Coded quotes text code) (line : style.multiline = false)
    {fuel : Nat} (enough : code.length < fuel) (rest : List Char) :
    style.restOfLine fuel (code ++ style.quote :: rest) = some (text, rest) := by
  induction coded generalizing fuel with
  | nil =>
    obtain ⟨fuel, rfl⟩ := Nat.exists_eq_succ_of_ne_zero (Nat.ne_zero_of_lt enough)
    simp [StringStyle.restOfLine]
  | quote multiline _ =>
    rw [line] at multiline
    cases multiline
  | @char quotes char first others text code few spells _ inductionHypothesis =>
    obtain ⟨fuel, rfl⟩ := Nat.exists_eq_succ_of_ne_zero (Nat.ne_zero_of_lt enough)
    have shorter : code.length < fuel := by
      simp only [List.length_append, List.length_cons] at enough
      omega
    have notClosed : ¬(first :: others ++ (code ++ style.quote :: rest)).head? =
        some style.quote := by
      simpa using spells.notQuote
    rw [List.append_assoc, StringStyle.restOfLine, if_neg notClosed, spells.reads]
    simp [inductionHypothesis shorter]

theorem takeWhile_replicate_append {quote : Char} (count : Nat)
    (other : rest.head? ≠ some quote) :
    (List.replicate count quote ++ rest).takeWhile (· = quote) = List.replicate count quote := by
  have stops : rest.takeWhile (· = quote) = [] := by
    cases rest with
    | nil => rfl
    | cons char rest =>
      have different : char ≠ quote := by simpa using other
      simp [different]
  rw [List.takeWhile_append_of_pos (by simp), stops, List.append_nil]

/-- Three quotes close a string, and up to two in front of them belong to it. -/
theorem restOfLines_close {fuel : Nat} (few : quotes ≤ 2)
    (follows : rest.head? ≠ some style.quote) :
    style.restOfLines (fuel + 1) (List.replicate (quotes + 3) style.quote ++ rest) =
      some (List.replicate quotes style.quote, rest) := by
  have run := takeWhile_replicate_append (quotes + 3) follows
  rw [restOfLines]
  simp only [run, List.length_replicate]
  rw [if_pos (Nat.le_add_left 3 quotes), Nat.add_sub_cancel, Nat.min_eq_left few,
    List.drop_left' (List.length_replicate ..)]

/-- A run of one or two quotes belongs to the string. -/
theorem restOfLines_run {fuel : Nat} (present : 0 < quotes) (few : quotes ≤ 2)
    (other : rest.head? ≠ some style.quote) :
    style.restOfLines (fuel + 1) (List.replicate quotes style.quote ++ rest) =
      (style.restOfLines fuel rest).map fun (text, rest) =>
        (List.replicate quotes style.quote ++ text, rest) := by
  have run := takeWhile_replicate_append quotes other
  rw [restOfLines]
  simp only [run, List.length_replicate]
  rw [if_neg (by omega), if_pos present, List.drop_left' (List.length_replicate ..)]
  cases style.restOfLines fuel rest <;> rfl

/-- The spelling of a character is read as the character. -/
theorem Spells.restOfLines {char first : Char} {others : List Char}
    (spells : style.Spells char first others) {fuel : Nat} (rest : List Char) :
    style.restOfLines (fuel + 1) (first :: others ++ rest) =
      (style.restOfLines fuel rest).map fun (text, rest) => (char :: text, rest) := by
  have none : (first :: others ++ rest).takeWhile (· = style.quote) = [] := by
    simp [spells.notQuote]
  rw [StringStyle.restOfLines]
  simp only [none, List.length_nil]
  rw [if_neg (by omega), if_neg (by omega), spells.reads]
  show (style.restOfLines fuel rest >>= fun read => pure ([char] ++ read.1, read.2)) = _
  cases style.restOfLines fuel rest <;> rfl

/-- Over several lines a code is read up to the closing quotes. The quotes that have just
been passed are read with what follows them. -/
theorem Coded.restOfLines (coded : style.Coded quotes text code) {fuel : Nat}
    (enough : quotes + code.length < fuel) (follows : rest.head? ≠ some style.quote) :
    style.restOfLines fuel
        (List.replicate quotes style.quote ++ (code ++ (List.replicate 3 style.quote ++ rest))) =
      some (List.replicate quotes style.quote ++ text, rest) := by
  induction coded generalizing fuel with
  | @nil quotes few =>
    obtain ⟨fuel, rfl⟩ := Nat.exists_eq_succ_of_ne_zero (Nat.ne_zero_of_lt enough)
    rw [List.nil_append, ← List.append_assoc, List.replicate_append_replicate,
      restOfLines_close few follows, List.append_nil]
  | @quote quotes text code multiline _ inductionHypothesis =>
    have moved : ∀ rest, List.replicate quotes style.quote ++ style.quote :: rest =
        List.replicate (quotes + 1) style.quote ++ rest := by
      intro rest
      rw [List.replicate_succ', List.append_assoc]
      rfl
    rw [List.length_cons] at enough
    rw [List.cons_append, moved, moved]
    exact inductionHypothesis (by omega)
  | @char quotes char first others text code few spells _ inductionHypothesis =>
    obtain ⟨fuel, rfl⟩ := Nat.exists_eq_succ_of_ne_zero (Nat.ne_zero_of_lt enough)
    simp only [List.length_append, List.length_cons] at enough
    rw [List.append_assoc]
    have read : ∀ fuel, code.length < fuel → style.restOfLines (fuel + 1)
        (first :: others ++ (code ++ (List.replicate 3 style.quote ++ rest))) =
          some (char :: text, rest) := by
      intro fuel enough
      have others := @inductionHypothesis fuel (by omega)
      rw [List.replicate_zero, List.nil_append, List.nil_append] at others
      rw [spells.restOfLines, others]
      rfl
    cases quotes with
    | zero => exact read fuel (by omega)
    | succ quotes =>
      -- What follows the quotes begins with another character, so they are a run of their own.
      obtain ⟨fuel, rfl⟩ := Nat.exists_eq_succ_of_ne_zero (show fuel ≠ 0 by omega)
      rw [restOfLines_run (Nat.succ_pos _) few (by simpa using spells.notQuote),
        read fuel (by omega)]
      rfl

/-! ### Spellings of characters -/

theorem newline_eq_none {first : Char} (notFeed : first ≠ '\n') (notReturn : first ≠ '\r')
    (rest : List Char) : newline (first :: rest) = none := by
  unfold newline
  split
  · rename_i equal
    exact absurd (List.cons.inj equal).1 notFeed
  · rename_i equal
    exact absurd (List.cons.inj equal).1 notReturn
  · rfl

theorem dropBlanks_of_head {first : Char} (visible : first ≠ ' ' ∧ first ≠ '\t')
    (rest : List Char) : dropBlanks (first :: rest) = first :: rest := by
  rw [dropBlanks, List.dropWhile_cons_of_neg (by simpa using visible)]

/-- A character that is no control character stands for itself, unless it is the quote or
begins an escape. -/
theorem spells_self {char : Char} (visible : isControl char = false)
    (notQuote : char ≠ style.quote) (notEscape : style.escaped = true → char ≠ '\\') :
    style.Spells char char [] := by
  have notFeed : char ≠ '\n' := by
    rintro rfl
    cases visible
  have notReturn : char ≠ '\r' := by
    rintro rfl
    cases visible
  refine ⟨fun rest => ?_, notQuote, notReturn, fun feed => absurd feed notFeed⟩
  have plain : ¬(style.escaped && decide (char = '\\')) = true := by
    simpa using notEscape
  rw [List.cons_append, List.nil_append, part, if_neg plain,
    newline_eq_none notFeed notReturn]
  simp [visible, notQuote]

/-- Over several lines a newline stands for itself. -/
theorem spells_newline (multiline : style.multiline = true) :
    style.Spells '\n' '\n' [] := by
  refine ⟨fun rest => ?_, ?_, by decide, fun _ => rfl⟩
  · rw [List.cons_append, List.nil_append, part, if_neg (by simp)]
    simp [newline, multiline]
  · unfold quote
    split <;> decide

/-- An escape is read as its character. -/
theorem spells_escape (escaped : style.escaped = true) {char first : Char} {others : List Char}
    (visible : first ≠ ' ' ∧ first ≠ '\t') (notBreak : first ≠ '\n' ∧ first ≠ '\r')
    (reads : ∀ rest, escapeSequence (first :: others ++ rest) = some (char, rest)) :
    style.Spells char '\\' (first :: others) := by
  refine ⟨fun rest => ?_, ?_, by decide, nofun⟩
  · rw [List.cons_append, part, if_pos (by simp [escaped]), List.cons_append,
      dropBlanks_of_head visible, newline_eq_none notBreak.1 notBreak.2]
    have read := reads rest
    rw [List.cons_append] at read
    simp [read]
  · simp [quote, escaped]

theorem hexValue?_hexDigit : ∀ number < 16, hexValue? (hexDigit number) = some number := by
  decide

/-- The last two of four digits give a code below two hundred and fifty-six. -/
theorem codePoint_four {number : Nat} (small : number < 128) (rest : List Char) :
    codePoint 4 0 (['0', '0', hexDigit (number / 16), hexDigit (number % 16)] ++ rest) =
      some (Char.ofNat number, rest) := by
  have zero : hexValue? '0' = some 0 := by decide
  have high := hexValue?_hexDigit (number / 16) (by omega)
  have low := hexValue?_hexDigit (number % 16) (by omega)
  have whole : number / 16 * 16 + number % 16 = number := by omega
  have valid : number.isValidChar := Or.inl (by omega)
  simp [codePoint, zero, high, low, whole, valid]

theorem spells_escapedChar (escaped : style.escaped = true) {char : Char}
    (notQuote : char ≠ '"') :
    ∃ first others, escapedChar style.multiline char = first :: others ∧
      style.Spells char first others := by
  unfold escapedChar
  split
  · exact ⟨_, _, rfl, spells_escape escaped (by decide) (by decide) fun _ => rfl⟩
  · exact ⟨_, _, rfl, spells_escape escaped (by decide) (by decide) fun _ => rfl⟩
  · split
    · rename_i multiline
      exact ⟨_, _, rfl, spells_newline multiline⟩
    · exact ⟨_, _, rfl, spells_escape escaped (by decide) (by decide) fun _ => rfl⟩
  · exact ⟨_, _, rfl, spells_escape escaped (by decide) (by decide) fun _ => rfl⟩
  · exact ⟨_, _, rfl, spells_escape escaped (by decide) (by decide) fun _ => rfl⟩
  · exact ⟨_, _, rfl, spells_escape escaped (by decide) (by decide) fun _ => rfl⟩
  · rename_i notBackslash
    split
    · rename_i control
      refine ⟨_, _, rfl, spells_escape escaped (by decide) (by decide) fun rest => ?_⟩
      have small : char.toNat < 128 := by
        simp only [isControl, Bool.or_eq_true, Bool.and_eq_true, decide_eq_true_eq] at control
        omega
      have read := codePoint_four small rest
      rw [Char.ofNat_toNat] at read
      exact read
    · rename_i visible
      refine ⟨_, _, rfl, spells_self (eq_false_of_ne_true visible) ?_ fun _ => notBackslash⟩
      simpa [quote, escaped] using notQuote

/-! ### The codes that are written -/

/-- The text with escapes is a code of it. -/
theorem coded_escape (escaped : style.escaped = true) (few : quotes ≤ 2) :
    style.Coded quotes text (escape style.multiline quotes text) := by
  induction text generalizing quotes with
  | nil => exact .nil few
  | cons char text inductionHypothesis =>
    rw [escape]
    split
    · rename_i isQuote
      have same : char = style.quote := by simp [isQuote, quote, escaped]
      split
      · rename_i allowed
        simp only [Bool.and_eq_true, decide_eq_true_eq] at allowed
        rw [same, ← show style.quote = '"' by simp [quote, escaped]]
        exact .quote allowed.1 (inductionHypothesis allowed.2)
      · rw [isQuote]
        have spells : style.Spells '"' '\\' ['"'] :=
          spells_escape escaped (by decide) (by decide) fun _ => rfl
        exact .char few spells (inductionHypothesis (Nat.zero_le 2))
    · rename_i notQuote
      obtain ⟨first, others, written, spells⟩ := spells_escapedChar escaped notQuote
      rw [written]
      exact .char few spells (inductionHypothesis (Nat.zero_le 2))

theorem le_longestRun (wanted : Char) (current best : Nat) (text : List Char) :
    best ≤ longestRun wanted current best text := by
  induction text generalizing current best with
  | nil => exact Nat.le_refl best
  | cons char text inductionHypothesis =>
    rw [longestRun]
    split
    · exact Nat.le_trans (Nat.le_max_left ..) (inductionHypothesis ..)
    · exact inductionHypothesis ..

/-- Only a text without the character has no run of it. -/
theorem longestRun_eq_zero_iff {wanted : Char} {current : Nat} :
    longestRun wanted current 0 text = 0 ↔ wanted ∉ text := by
  induction text generalizing current with
  | nil => simp [longestRun]
  | cons char text inductionHypothesis =>
    rw [longestRun]
    split
    · rename_i same
      have := le_longestRun wanted (current + 1) (max 0 (current + 1)) text
      simp only [same, List.mem_cons_self, not_true, iff_false]
      omega
    · rename_i different
      rw [inductionHypothesis, List.mem_cons, not_or, and_iff_right (Ne.symm different)]

/-- A text is a code of itself in a style without escapes, unless it holds control characters
or too many quotes. -/
theorem coded_self (literal : style.escaped = false)
    (shown : ∀ char ∈ text, isControl char = true → char = '\n' ∧ style.multiline = true)
    (quoted : style.quote ∈ text → style.multiline = true) {best : Nat} (seen : quotes ≤ best)
    (few : longestRun style.quote quotes best text ≤ 2) : style.Coded quotes text text := by
  have allowed : quotes ≤ 2 := Nat.le_trans seen (Nat.le_trans (le_longestRun ..) few)
  induction text generalizing quotes best with
  | nil => exact .nil allowed
  | cons char text inductionHypothesis =>
    have shownRest := fun other inside => shown other (List.mem_cons_of_mem char inside)
    have quotedRest := fun inside => quoted (List.mem_cons_of_mem char inside)
    rw [longestRun] at few
    split at few
    · rename_i isQuote
      subst isQuote
      have more : quotes + 1 ≤ max best (quotes + 1) := Nat.le_max_right ..
      exact .quote (quoted List.mem_cons_self) (inductionHypothesis shownRest quotedRest more few
        (Nat.le_trans more (Nat.le_trans (le_longestRun ..) few)))
    · rename_i notQuote
      have coded := inductionHypothesis shownRest quotedRest (Nat.zero_le best) few (Nat.zero_le 2)
      cases control : isControl char with
      | false =>
        exact .char allowed (spells_self control notQuote (by simp [literal])) coded
      | true =>
        obtain ⟨rfl, multiline⟩ := shown char List.mem_cons_self control
        exact .char allowed (spells_newline multiline) coded

/-- The styles in which a text can be written. -/
def Fits (style : StringStyle) (text : List Char) : Prop :=
  style.Coded 0 text (if style.escaped then escape style.multiline 0 text else text)

theorem fits_of_escaped (escaped : style.escaped = true) : style.Fits text := by
  rw [Fits, if_pos escaped]
  exact coded_escape escaped (Nat.zero_le 2)

theorem fits_literal (shown : ∀ char ∈ text, isControl char = false)
    (unquoted : longestRun '\'' 0 0 text = 0) : literal.Fits text := by
  refine coded_self rfl ?_ ?_ (Nat.le_refl 0) (Nat.le_trans (Nat.le_of_eq unquoted) (by decide))
  · intro char inside control
    rw [shown char inside] at control
    cases control
  · intro inside
    exact absurd inside (longestRun_eq_zero_iff.1 unquoted)

theorem fits_multilineLiteral (shown : ∀ char ∈ text, isControl char = true → char = '\n')
    (few : longestRun '\'' 0 0 text ≤ 2) : multilineLiteral.Fits text :=
  coded_self rfl (fun char inside control => ⟨shown char inside control, rfl⟩) (fun _ => rfl)
    (Nat.le_refl 0) few

/-- The style that is chosen for a text fits it. -/
theorem fits_ofText (text : List Char) : (ofText text).Fits text := by
  have shown : (!text.any fun char => isControl char && char ≠ '\n') = true →
      ∀ char ∈ text, isControl char = true → char = '\n' := by
    simp
  unfold ofText
  dsimp only
  split
  · exact fits_of_escaped rfl
  · split
    · rename_i condition
      simp only [Bool.and_eq_true, decide_eq_true_eq] at condition
      obtain ⟨⟨control, newline⟩, unquoted⟩ := condition
      refine fits_literal (fun char inside => eq_false_of_ne_true fun isControl => ?_) unquoted
      have feed := shown control char inside isControl
      rw [feed] at inside
      simp [inside] at newline
    · split
      · exact fits_of_escaped rfl
      · split
        · rename_i condition
          simp only [Bool.and_eq_true, decide_eq_true_eq] at condition
          exact fits_multilineLiteral (shown condition.1) condition.2
        · exact fits_of_escaped rfl

/-! ### Strings -/

/-- A code does not begin with a newline unless its text has one. -/
theorem Coded.newline_eq_none (coded : style.Coded quotes text code) (line : '\n' ∉ text)
    (rest : List Char) : newline (code ++ style.quote :: rest) = none := by
  have quoteVisible : style.quote ≠ '\n' ∧ style.quote ≠ '\r' := by
    unfold StringStyle.quote
    split <;> decide
  cases coded with
  | nil => exact StringStyle.newline_eq_none quoteVisible.1 quoteVisible.2 rest
  | quote => exact StringStyle.newline_eq_none quoteVisible.1 quoteVisible.2 _
  | char few spells coded =>
    refine StringStyle.newline_eq_none (fun feed => ?_) spells.notReturn _
    rw [spells.newline feed] at line
    exact line List.mem_cons_self

/-- On one line a code does not begin with the quote. -/
theorem Coded.head?_ne (coded : style.Coded quotes text code) (line : style.multiline = false) :
    code.head? ≠ some style.quote := by
  cases coded with
  | nil => exact nofun
  | quote multiline =>
    rw [line] at multiline
    cases multiline
  | char few spells coded => simpa using spells.notQuote

/-- What follows the opening quotes is read as the text, and does not look like further
quotes. -/
theorem Fits.exists_inside (fits : style.Fits text) (follows : rest.head? ≠ some style.quote) :
    ∃ inside, style.write text ++ rest = style.delimiter ++ inside ∧
      style.body inside = some (text, rest) ∧
      (style.multiline = false → ∀ others, inside ≠ style.quote :: style.quote :: others) := by
  unfold Fits at fits
  unfold write
  generalize (if style.escaped then escape style.multiline 0 text else text) = code at fits ⊢
  rw [List.append_assoc, List.append_assoc, List.append_assoc]
  refine ⟨_, rfl, ?_⟩
  cases multiline : style.multiline with
  | false =>
    have closing : style.delimiter = [style.quote] := by simp [delimiter, multiline]
    simp only [Bool.false_and, Bool.false_eq_true, if_false, List.nil_append, closing,
      List.cons_append]
    constructor
    · rw [body, if_neg (by simp [multiline])]
      exact fits.restOfLine multiline (by simp) rest
    · rintro - others looks
      have head := fits.head?_ne multiline
      cases code with
      | nil => simp_all
      | cons => simp_all
  | true =>
    have closing : style.delimiter = List.replicate 3 style.quote := by
      simp [delimiter, multiline]
    refine ⟨?_, nofun⟩
    have read : ∀ fuel, code.length < fuel → style.restOfLines fuel
        (code ++ (List.replicate 3 style.quote ++ rest)) = some (text, rest) := by
      intro fuel enough
      have read := @Coded.restOfLines _ _ _ _ _ fits fuel (by omega) follows
      rwa [List.replicate_zero, List.nil_append, List.nil_append] at read
    rw [body, if_pos multiline, Bool.true_and, closing]
    cases feeds : text.contains '\n' with
    | true => exact read _ (by simp)
    | false =>
      have starts := fits.newline_eq_none (by simpa using feeds)
        (List.replicate 2 style.quote ++ rest)
      rw [if_neg nofun, List.nil_append]
      simp only [List.replicate_succ, List.cons_append, List.replicate_zero,
        List.nil_append] at starts read ⊢
      rw [starts]
      exact read _ (by simp)

theorem opening_of_multiline (multiline : style.multiline = true) (inside : List Char) :
    opening (style.delimiter ++ inside) = some (style, inside) := by
  obtain ⟨escaped, _⟩ := style
  cases multiline
  cases escaped <;> rfl

/-- Quotes that are not three open a string on one line. -/
theorem opening_of_line (line : style.multiline = false) {inside : List Char}
    (single : ∀ others, inside ≠ style.quote :: style.quote :: others) :
    opening (style.delimiter ++ inside) = some (style, inside) := by
  obtain ⟨escaped, _⟩ := style
  cases line
  cases escaped
  · show opening ('\'' :: inside) = _
    unfold opening
    split <;> simp_all [quote, literal]
  · show opening ('"' :: inside) = _
    unfold opening
    split <;> simp_all [quote, basic]

/-- A string that is written in a style that fits it is read back. -/
theorem Fits.read_write (fits : style.Fits text) (follows : rest.head? ≠ some style.quote) :
    read (style.write text ++ rest) = some (text, rest) := by
  obtain ⟨inside, written, reads, single⟩ := fits.exists_inside follows
  have opens : opening (style.delimiter ++ inside) = some (style, inside) := by
    cases multiline : style.multiline with
    | true => exact opening_of_multiline multiline inside
    | false => exact opening_of_line multiline (single multiline)
  rw [written, read, opens]
  exact reads

end StringStyle

/-- A string is read back, up to what follows it. -/
theorem read_quotedText (text : List Char) {rest : List Char}
    (follows : rest.head? ≠ some '"' ∧ rest.head? ≠ some '\'') :
    StringStyle.read (quotedText text ++ rest) = some (text, rest) := by
  refine (StringStyle.fits_ofText text).read_write ?_
  unfold StringStyle.quote
  split
  · exact follows.1
  · exact follows.2

end ErrorLint.Toml
