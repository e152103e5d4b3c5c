/-
This file compares the two spellings of a code. An escape writes a code with four digits, or
with digits in braces, and with the same digits the two mean the same code. Whether they may
be exchanged depends on the escape in front only. Reading a literal cuts it into tokens from
left to right, and at almost every cut what comes before is read as if nothing came after. The
one cut that is not free is between the two halves of a character outside the basic plane:
behind the first half, the second one is looked for, and it is known by four digits alone.

So a code may be spelled either way everywhere but as the second half of such a character.
There four digits make the character whole, and braces leave two halves, each of which is
shown as the replacement character. How the first half is spelled makes no difference.
-/

import ErrorLint.Proofs.Text.LiteralSpelling

namespace ErrorLint.StringLiteral

/-! ### Tokens -/

/-- A code as it is written in an escape: with four digits, or with any number of digits in
braces. -/
inductive WrittenCode where
  | four (digits : Vector HexDigit 4)
  | braced (digits : List HexDigit) (present : digits ≠ []) (bound : number digits ≤ 0x10FFFF)

namespace WrittenCode

def value : WrittenCode → Nat
  | four digits => number digits.toList
  | braced digits _ _ => number digits

/-- The escape without its backslash and its letter. -/
def text : WrittenCode → List Char
  | four digits => digits.toList.map HexDigit.char
  | braced digits _ _ => '\x7b' :: (digits.map HexDigit.char ++ ['\x7d'])

/-- The escape. -/
def spelling (code : WrittenCode) : List Char := '\\' :: 'u' :: code.text

/-- Four digits in braces. -/
def enclosed (digits : Vector HexDigit 4) : WrittenCode :=
  braced digits.toList
    (fun empty => absurd (digits.length_toList.symm.trans (congrArg List.length empty)) (by decide))
    (Nat.le_trans (Nat.le_of_lt (number_four_lt digits)) (by decide))

theorem value_enclosed (digits : Vector HexDigit 4) :
    (enclosed digits).value = number digits.toList := rfl

end WrittenCode

/-- A part of a literal between its quotes that is read at once: a character, or an escape.
Every escape but the numeric ones is a backslash and one character. -/
inductive Token where
  | plain (char : Char) (noEscape : char ≠ '\\')
  | letter (char : Char) (noByte : char ≠ 'x') (noCode : char ≠ 'u')
  | byte (high low : HexDigit)
  | code (written : WrittenCode)

def Token.spelling : Token → List Char
  | plain char _ => [char]
  | letter char _ _ => ['\\', char]
  | byte high low => ['\\', 'x', high.char, low.char]
  | code written => written.spelling

/-- The text that tokens write. -/
def spell (tokens : List Token) : List Char := tokens.flatMap Token.spelling

/-- The last token is the first half of a character. -/
def EndsHigh (tokens : List Token) : Prop :=
  ∃ before written, tokens = before ++ [.code written] ∧ IsHighHalf written.value

theorem spell_cons (token : Token) (rest : List Token) :
    spell (token :: rest) = token.spelling ++ spell rest :=
  List.flatMap_cons

theorem spell_append (front back : List Token) :
    spell (front ++ back) = spell front ++ spell back :=
  List.flatMap_append

/-- Every element of a standard literal is written by tokens. -/
theorem exists_spell_eq_spelling {quote : Quote} (element : Element quote) :
    ∃ tokens, spell tokens = element.spelling := by
  cases element with
  | plain char _ noEscape _ _ => exact ⟨[.plain char noEscape], rfl⟩
  | control name =>
    exact ⟨[.letter name.letter (by cases name <;> decide) (by cases name <;> decide)], rfl⟩
  | null => exact ⟨[.letter '0' (by decide) (by decide)], rfl⟩
  | byte high low => exact ⟨[.byte high low], rfl⟩
  | code digits _ => exact ⟨[.code (.four digits)], List.append_nil _⟩
  | pair high low _ _ =>
    refine ⟨[.code (.four high), .code (.four low)], ?_⟩
    rw [spell_cons, spell_cons]
    exact congrArg _ (List.append_nil _)
  | braced digits present _ bound =>
    exact ⟨[.code (.braced digits present bound)], List.append_nil _⟩
  | verbatim char _ other =>
    have noByte : char ≠ 'x' := fun same => other (same ▸ by decide)
    have noCode : char ≠ 'u' := fun same => other (same ▸ by decide)
    exact ⟨[.letter char noByte noCode], rfl⟩
  | continuation lineBreak =>
    cases lineBreak with
    | lineFeed => exact ⟨[.letter '\n' (by decide) (by decide)], rfl⟩
    | carriageReturn => exact ⟨[.letter '\r' (by decide) (by decide)], rfl⟩
    | both => exact ⟨[.letter '\r' (by decide) (by decide), .plain '\n' (by decide)], rfl⟩
    | lineSeparator => exact ⟨[.letter '\u2028' (by decide) (by decide)], rfl⟩
    | paragraphSeparator => exact ⟨[.letter '\u2029' (by decide) (by decide)], rfl⟩

/-- So the front of a standard literal, up to any of its elements, is written by tokens. -/
theorem exists_spell_eq_flatMap {quote : Quote} (elements : List (Element quote)) :
    ∃ tokens, spell tokens = elements.flatMap Element.spelling := by
  induction elements with
  | nil => exact ⟨[], rfl⟩
  | cons element rest inductionHypothesis =>
    obtain ⟨front, first⟩ := exists_spell_eq_spelling element
    obtain ⟨back, others⟩ := inductionHypothesis
    exact ⟨front ++ back, by rw [spell_append, first, others, List.flatMap_cons]⟩

/-! ### Reading a code -/

theorem readCode_text (code : WrittenCode) (rest : List Char) :
    readCode (code.text ++ rest) = (some code.value, rest) := by
  cases code with
  | four digits => exact readCode_four digits rest
  | braced digits present bound =>
    rw [WrittenCode.text, List.cons_append, List.append_assoc]
    exact readCode_braced present bound rest

/-- A code is read the same in both spellings, and what follows decides whether it is a half of
a character. -/
theorem decode_code (code : WrittenCode) (rest : List Char) :
    decode (code.spelling ++ rest) =
      (unit code.value rest).1 :: decode (unit code.value rest).2 := by
  have stands : escape 'u' (code.text ++ rest) =
      ([(unit code.value rest).1], (unit code.value rest).2) := by
    show numeric 'u' (readCode _) = _
    rw [readCode_text]
    rfl
  rw [WrittenCode.spelling, List.cons_append, List.cons_append, decode_escape, stands]
  rfl

theorem unit_of_alone {code : Nat} {rest : List Char} (alone : lowSurrogate? rest = none) :
    unit code rest = (character code, rest) := by
  rw [unit, alone]
  split <;> rfl

/-! ### The second half -/

/-- The code of a second half, if the token is one with four digits. -/
def Token.low? : Token → Option Nat
  | code (.four digits) =>
    if isLowSurrogate (number digits.toList) then some (number digits.toList) else none
  | _ => none

theorem isLowHalf_of_low? {token : Token} {low : Nat} (half : token.low? = some low) :
    IsLowHalf low := by
  unfold Token.low? at half
  split at half
  · split at half
    · rename_i isLow
      rw [← Option.some.inj half]
      exact isLowSurrogate_iff.mp isLow
    · cases half
  · cases half

theorem lowSurrogate?_of_not_prefix {text : List Char} (other : ¬['\\', 'u'] <+: text) :
    lowSurrogate? text = none := by
  unfold lowSurrogate?
  split
  · rename_i rest
    exact absurd ⟨rest, rfl⟩ other
  · rfl

/-- Of what follows a first half, the next token alone is looked at. -/
theorem lowSurrogate?_spelling (token : Token) (rest : List Char) :
    lowSurrogate? (token.spelling ++ rest) = token.low?.map fun low => (low, rest) := by
  cases token with
  | plain char noEscape =>
    exact lowSurrogate?_of_not_prefix fun ⟨_, same⟩ => noEscape (List.cons.inj same).1.symm
  | letter char noByte noCode =>
    exact lowSurrogate?_of_not_prefix fun ⟨_, same⟩ =>
      noCode (List.cons.inj (List.cons.inj same).2).1.symm
  | byte high low =>
    exact lowSurrogate?_of_not_prefix fun ⟨_, same⟩ =>
      absurd (List.cons.inj (List.cons.inj same).2).1 (by decide)
  | code written =>
    cases written with
    | four digits =>
      show lowSurrogate? ('\\' :: 'u' :: (digits.toList.map HexDigit.char ++ rest)) = _
      rw [lowSurrogate?, readDigits_four, Token.low?]
      dsimp only
      split <;> rfl
    | braced digits present bound => rfl

/-! ### Cuts between tokens -/

theorem EndsHigh.of_suffix {tokens back : List Token} (ends : EndsHigh back)
    (part : back <:+ tokens) : EndsHigh tokens := by
  obtain ⟨before, written, rfl, high⟩ := ends
  obtain ⟨front, rfl⟩ := part
  exact ⟨front ++ before, written, (List.append_assoc front before _).symm, high⟩

/-- A place behind some tokens where reading may be cut: an escape or nothing follows, and it
is not taken for a second half. -/
structure IsCut (front : List Token) (text : List Char) : Prop where
  escapes : ∀ char ∈ text.head?, char = '\\'
  alone : EndsHigh front → lowSurrogate? text = none

theorem isCut_nil (front : List Token) : IsCut front [] where
  escapes := fun _ member => nomatch member
  alone := fun _ => rfl

theorem IsCut.of_suffix {tokens back : List Token} {text : List Char} (cut : IsCut tokens text)
    (part : back <:+ tokens) : IsCut back text where
  escapes := cut.escapes
  alone := fun ends => cut.alone (ends.of_suffix part)

/-- Before a code that is not read as a second half there is a cut, whatever is in front. -/
theorem isCut_code {front : List Token} {code : WrittenCode}
    (alone : EndsHigh front → (Token.code code).low? = none) (rest : List Char) :
    IsCut front (code.spelling ++ rest) where
  escapes := fun _ member => (Option.some.inj member).symm
  alone := fun ends => by
    rw [← Token.spelling, lowSurrogate?_spelling, alone ends]
    rfl

/-- A letter that is no carriage return takes nothing of what follows, and only whether a digit
follows is looked at. -/
theorem exists_escape_eq {letter : Char} (noByte : letter ≠ 'x') (noCode : letter ≠ 'u')
    (noReturn : letter ≠ '\r') :
    ∃ chars : Bool → List Char,
      ∀ rest, escape letter rest = (chars (rest.head?.any Char.isDigit), rest) := by
  unfold escape
  cases control? letter with
  | some char => exact ⟨fun _ => [char], fun _ => rfl⟩
  | none =>
    simp only [if_neg noByte, if_neg noCode, if_neg noReturn]
    by_cases zero : letter = '0'
    · refine ⟨fun digit => if digit then ['0'] else ['\x00'], fun rest => ?_⟩
      rw [if_pos zero, apply_ite (fun chars => (chars, rest))]
    by_cases lineBreak : letter = '\n' ∨ letter = '\u2028' ∨ letter = '\u2029'
    · exact ⟨fun _ => [], fun _ => by rw [if_neg zero, if_pos lineBreak]⟩
    · exact ⟨fun _ => [letter], fun _ => by rw [if_neg zero, if_neg lineBreak]⟩

/-- A letter takes nothing of what follows but a line feed after a carriage return, which is one
token. -/
theorem exists_suffix_escape {letter : Char} (noByte : letter ≠ 'x') (noCode : letter ≠ 'u')
    (tokens : List Token) :
    ∃ chars more, more <:+ tokens ∧ ∀ text : List Char, (∀ char ∈ text.head?, char = '\\') →
      escape letter (spell tokens ++ text) = (chars, spell more ++ text) := by
  have noFeedHere : ∀ text : List Char, (∀ char ∈ text.head?, char = '\\') →
      text.head? ≠ some '\n' :=
    fun text escapes feed => absurd (escapes '\n' feed) (by decide)
  by_cases isReturn : letter = '\r'
  · rw [isReturn]
    cases tokens with
    | nil => exact ⟨[], [], List.suffix_refl _, fun text escapes =>
        escape_return (noFeedHere text escapes)⟩
    | cons token rest =>
      cases token with
      | plain char noEscape =>
        by_cases feed : char = '\n'
        · refine ⟨[], rest, List.suffix_cons _ rest, fun text _ => ?_⟩
          show escape '\r' (char :: (spell rest ++ text)) = _
          rw [feed]
          rfl
        · exact ⟨[], _, List.suffix_refl _, fun _ _ =>
            escape_return fun same => feed (Option.some.inj same)⟩
      | _ => exact ⟨[], _, List.suffix_refl _, fun _ _ =>
          escape_return fun same => absurd (Option.some.inj same) (by decide)⟩
  · obtain ⟨chars, stands⟩ := exists_escape_eq noByte noCode isReturn
    have sameDigit : ∀ text : List Char, (∀ char ∈ text.head?, char = '\\') →
        (spell tokens ++ text).head?.any Char.isDigit =
          (spell tokens).head?.any Char.isDigit := fun text escapes => by
      cases spell tokens with
      | cons char more => rfl
      | nil =>
        cases text with
        | nil => rfl
        | cons char more =>
          rw [escapes char rfl]
          rfl
    refine ⟨chars ((spell tokens).head?.any Char.isDigit), tokens, List.suffix_refl _,
      fun text escapes => ?_⟩
    rw [stands, sameDigit text escapes]

/-- A code takes nothing of what follows but a second half, which is one token. -/
theorem exists_suffix_unit (code : WrittenCode) (tokens : List Token) :
    ∃ char more, more <:+ tokens ∧ ∀ text, IsCut (.code code :: tokens) text →
      unit code.value (spell tokens ++ text) = (char, spell more ++ text) := by
  by_cases high : IsHighHalf code.value
  · cases tokens with
    | nil =>
      refine ⟨character code.value, [], List.suffix_refl _, fun text cut => ?_⟩
      exact unit_of_alone (cut.alone ⟨[], code, rfl, high⟩)
    | cons token rest =>
      cases half : token.low? with
      | some low =>
        refine ⟨joined code.value low, rest, List.suffix_cons token rest, fun text _ => ?_⟩
        rw [spell_cons, List.append_assoc]
        refine unit_of_pair high ?_ (isLowHalf_of_low? half)
        rw [lowSurrogate?_spelling, half]
        rfl
      | none =>
        refine ⟨character code.value, token :: rest, List.suffix_refl _, fun text _ => ?_⟩
        refine unit_of_alone ?_
        rw [spell_cons, List.append_assoc, lowSurrogate?_spelling, half]
        rfl
  · exact ⟨character code.value, tokens, List.suffix_refl _,
      fun text _ => unit_of_not_high high _⟩

/-- A token is read as some characters before what follows, or before what is left of it. That
depends on the tokens behind it, and not on what is behind them. -/
theorem exists_suffix_decode (token : Token) (tokens : List Token) :
    ∃ chars more, more <:+ tokens ∧ ∀ text, IsCut (token :: tokens) text →
      decode (token.spelling ++ (spell tokens ++ text)) =
        chars ++ decode (spell more ++ text) := by
  cases token with
  | plain char noEscape =>
    exact ⟨[char], tokens, List.suffix_refl _, fun text _ => decode_cons_of_ne noEscape _⟩
  | letter char noByte noCode =>
    obtain ⟨chars, more, part, left⟩ := exists_suffix_escape noByte noCode tokens
    refine ⟨chars, more, part, fun text cut => ?_⟩
    show decode ('\\' :: char :: (spell tokens ++ text)) = _
    rw [decode_escape, left text cut.escapes]
  | byte high low =>
    refine ⟨[Char.ofNat (number [high, low])], tokens, List.suffix_refl _, fun text _ => ?_⟩
    show decode ('\\' :: 'x' :: high.char :: low.char :: (spell tokens ++ text)) = _
    rw [decode_escape, escape_byte]
  | code written =>
    obtain ⟨char, more, part, left⟩ := exists_suffix_unit written tokens
    refine ⟨[char], more, part, fun text cut => ?_⟩
    show decode (written.spelling ++ (spell tokens ++ text)) = _
    rw [decode_code, left text cut]
    rfl

/-- At a cut, what is in front is read as if nothing followed. -/
theorem decode_append {front : List Token} {text : List Char} (cut : IsCut front text) :
    decode (spell front ++ text) = decode (spell front) ++ decode text := by
  -- a token may take a part of the next one, so the induction is on how many are left
  induction front using (measure List.length).wf.induction with
  | _ front inductionHypothesis =>
    cases front with
    | nil =>
      rw [spell, List.flatMap_nil, decode]
      rfl
    | cons token rest =>
      obtain ⟨chars, more, part, read⟩ := exists_suffix_decode token rest
      have shorter : more.length < (token :: rest).length := Nat.lt_succ_of_le part.length_le
      have cutMore : IsCut more text := cut.of_suffix (part.trans (List.suffix_cons token rest))
      have readAlone := read [] (isCut_nil _)
      rw [List.append_nil, List.append_nil] at readAlone
      rw [spell_cons, List.append_assoc, read text cut, readAlone,
        inductionHypothesis more shorter cutMore, List.append_assoc]

/-! ### The two spellings of a code -/

theorem low?_of_not_low {code : WrittenCode} (notLow : ¬IsLowHalf code.value) :
    (Token.code code).low? = none := by
  cases code with
  | four digits => exact if_neg (mt isLowSurrogate_iff.mp notLow)
  | braced digits present bound => rfl

theorem low?_of_high {code : WrittenCode} (high : IsHighHalf code.value) :
    (Token.code code).low? = none :=
  low?_of_not_low fun low => low.not_isHighHalf high

theorem low?_four {digits : Vector HexDigit 4} (low : IsLowHalf (number digits.toList)) :
    (Token.code (.four digits)).low? = some (number digits.toList) :=
  if_pos (isLowSurrogate_iff.mpr low)

/-- A code at a cut is read with what follows it, and by itself. -/
theorem decode_at_cut {front : List Token} {code : WrittenCode}
    (alone : EndsHigh front → (Token.code code).low? = none) (rest : List Char) :
    decode (spell front ++ (code.spelling ++ rest)) =
      decode (spell front) ++ (unit code.value rest).1 :: decode (unit code.value rest).2 := by
  rw [decode_append (isCut_code alone rest), decode_code]

/-- Two halves are read together if the second one has four digits. -/
theorem decode_pair (front : List Token) {high : WrittenCode} {digits : Vector HexDigit 4}
    (isHigh : IsHighHalf high.value) (isLow : IsLowHalf (number digits.toList))
    (back : List Char) :
    decode (spell front ++ (high.spelling ++ ((WrittenCode.four digits).spelling ++ back))) =
      decode (spell front) ++ joined high.value (number digits.toList) :: decode back := by
  have followed : lowSurrogate? ((WrittenCode.four digits).spelling ++ back) =
      some (number digits.toList, back) := by
    rw [← Token.spelling, lowSurrogate?_spelling, low?_four isLow]
    rfl
  rw [decode_at_cut (fun _ => low?_of_high isHigh), unit_of_pair isHigh followed isLow]

/-- With its digits in braces the second half is not looked for, and neither half is a
character. -/
theorem decode_halves (front : List Token) {high : WrittenCode} {digits : Vector HexDigit 4}
    (isHigh : IsHighHalf high.value) (isLow : IsLowHalf (number digits.toList))
    (back : List Char) :
    decode (spell front ++ (high.spelling ++ ((WrittenCode.enclosed digits).spelling ++ back))) =
      decode (spell front) ++ '\uFFFD' :: '\uFFFD' :: decode back := by
  have alone : lowSurrogate? ((WrittenCode.enclosed digits).spelling ++ back) = none := by
    rw [← Token.spelling, lowSurrogate?_spelling]
    rfl
  rw [decode_at_cut (fun _ => low?_of_high isHigh), unit_of_alone alone, decode_code,
    WrittenCode.value_enclosed, unit_of_not_high isLow.not_isHighHalf,
    character_of_surrogate isHigh.isSurrogate, character_of_surrogate isLow.isSurrogate]

/-- The literal with some text between its quotes. -/
def Quote.around (quote : Quote) (text : List Char) : String :=
  String.ofList (quote.char :: text ++ [quote.char])

theorem value_around (quote : Quote) (text : List Char) :
    value (quote.around text) = String.ofList (decode text) := by
  rw [value, Quote.around, String.toList_ofList, unquote_quoted]

/-- A code with four digits may be put in braces, and taken out of them, exactly if it is not
the second half of a character whose first half is in front of it. Where it is, the halves are
that character if the second one has four digits, and two replacement characters if its digits
are in braces, however the first half is spelled. -/
theorem value_respelled (quote : Quote) (digits : Vector HexDigit 4) (back : List Char) :
    (∀ front : List Token,
      value (quote.around (spell front ++ ((WrittenCode.four digits).spelling ++ back))) =
          value (quote.around (spell front ++ ((WrittenCode.enclosed digits).spelling ++ back))) ↔
        ¬(IsLowHalf (number digits.toList) ∧ EndsHigh front)) ∧
    ∀ (front : List Token) (high : WrittenCode),
      IsHighHalf high.value → IsLowHalf (number digits.toList) →
        value (quote.around
            (spell front ++ (high.spelling ++ ((WrittenCode.four digits).spelling ++ back)))) =
          String.ofList (decode (spell front) ++
            joined high.value (number digits.toList) :: decode back) ∧
        value (quote.around
            (spell front ++ (high.spelling ++ ((WrittenCode.enclosed digits).spelling ++ back)))) =
          String.ofList (decode (spell front) ++ '\uFFFD' :: '\uFFFD' :: decode back) := by
  refine ⟨fun front => ?_, fun front high isHigh isLow => ?_⟩
  · rw [value_around, value_around, String.ofList_inj]
    constructor
    · rintro same ⟨isLow, before, high, rfl, isHigh⟩
      have whole : spell (before ++ [.code high]) = spell before ++ high.spelling := by
        rw [spell_append, spell_cons]
        exact congrArg _ (List.append_nil _)
      rw [whole, List.append_assoc, List.append_assoc, decode_pair before isHigh isLow,
        decode_halves before isHigh isLow] at same
      have lengths := congrArg List.length (List.append_cancel_left same)
      exact absurd lengths (by simp)
    · intro free
      have alone : EndsHigh front → (Token.code (.four digits)).low? = none :=
        fun ends => low?_of_not_low fun isLow => free ⟨isLow, ends⟩
      rw [decode_at_cut alone, decode_at_cut fun _ => rfl]
      rfl
  · rw [value_around, value_around, decode_pair front isHigh isLow,
      decode_halves front isHigh isLow]
    exact ⟨rfl, rfl⟩

/-- The first half in braces, and the second one in both spellings. -/
theorem value_respelled_of_braced_high :
    value "'\\u\x7bD83D\x7d\\uDE00.'" = "😀." ∧
      value "'\\u\x7bD83D\x7d\\u\x7bDE00\x7d.'" = "\uFFFD\uFFFD." := by
  have halves := (value_respelled .single
    #v[⟨0xD, true⟩, ⟨0xE, true⟩, ⟨0, false⟩, ⟨0, false⟩] ['.']).2 []
    (.enclosed #v[⟨0xD, true⟩, ⟨8, false⟩, ⟨3, false⟩, ⟨0xD, true⟩]) (by decide) (by decide)
  have behind : decode ['.'] = ['.'] := by rw [decode_cons_of_ne (by decide), decode]
  have inFront : decode (spell []) = [] := by rw [spell, List.flatMap_nil, decode]
  rw [behind, inFront] at halves
  exact halves

/-- Two spellings of one code that are not exchanged. -/
theorem value_of_enclosed_low :
    value "'\\uD83D\\uDE00'" = "😀" ∧ value "'\\uD83D\\u\x7bDE00\x7d'" = "\uFFFD\uFFFD" := by
  decide +kernel

end ErrorLint.StringLiteral
