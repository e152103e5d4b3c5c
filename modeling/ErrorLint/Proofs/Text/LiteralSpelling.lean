/-
This file says what a string literal stands for, without reading one. Between its quotes a
standard literal is a sequence of elements: characters that stand for themselves, escapes of
several kinds, and line breaks that are written and do not count. Every element has a
spelling and a value, and both are given here element by element.

Reading goes through the characters from left to right, takes a different number of them for
each kind of escape, and looks ahead for the second half of a surrogate pair. The main
statement is that nothing of this shows: what is read is the values of the elements, one
after the other. An element is read the same whatever follows it, and there are two places
at which that has to be argued. A null is not followed by a digit, which the literal says of
itself, and a carriage return that is not counted is not followed by a line feed, because no
spelling starts with one.
-/

import ErrorLint.StringLiteral
import Mathlib.Data.Nat.Digits.Lemmas

namespace ErrorLint.StringLiteral

/-! ### Elements of a literal -/

/-- The quotes around a literal. -/
inductive Quote where
  | single
  | double
  deriving Repr, DecidableEq

def Quote.char : Quote → Char
  | single => '\''
  | double => '"'

/-- A hexadecimal digit as it is written. Above nine it is a small or a capital letter. -/
structure HexDigit where
  value : Fin 16
  capital : Bool
  deriving Repr, DecidableEq

def HexDigit.char (digit : HexDigit) : Char :=
  if digit.value.val < 10 then Char.ofNat ('0'.toNat + digit.value.val)
  else if digit.capital then Char.ofNat ('A'.toNat + (digit.value.val - 10))
  else Char.ofNat ('a'.toNat + (digit.value.val - 10))

/-- The number that digits write, the first of them for the highest place. -/
def number (digits : List HexDigit) : Nat :=
  Nat.ofDigits 16 (digits.reverse.map (·.value.val))

/-- The control characters that have a letter of their own. -/
inductive Control where
  | backspace
  | formFeed
  | lineFeed
  | carriageReturn
  | tab
  | verticalTab
  deriving Repr, DecidableEq

def Control.letter : Control → Char
  | backspace => 'b'
  | formFeed => 'f'
  | lineFeed => 'n'
  | carriageReturn => 'r'
  | tab => 't'
  | verticalTab => 'v'

def Control.char : Control → Char
  | backspace => '\x08'
  | formFeed => '\x0c'
  | lineFeed => '\n'
  | carriageReturn => '\r'
  | tab => '\t'
  | verticalTab => '\x0b'

/-- The ways to break a line. -/
inductive LineBreak where
  | lineFeed
  | carriageReturn
  | both
  | lineSeparator
  | paragraphSeparator
  deriving Repr, DecidableEq

def LineBreak.text : LineBreak → List Char
  | lineFeed => ['\n']
  | carriageReturn => ['\r']
  | both => ['\r', '\n']
  | lineSeparator => ['\u2028']
  | paragraphSeparator => ['\u2029']

/-- The letters after a backslash that do not stand for themselves, the digits apart. -/
def reserved : List Char :=
  ['b', 'f', 'n', 'r', 't', 'v', 'x', 'u', '\n', '\r', '\u2028', '\u2029']

/-- A code for one half of a character outside the basic plane. -/
def IsSurrogate (code : Nat) : Prop := 0xD800 ≤ code ∧ code < 0xE000

/-- A code for the first half of a character outside the basic plane. -/
def IsHighHalf (code : Nat) : Prop := 0xD800 ≤ code ∧ code < 0xDC00

/-- A code for the second half of a character outside the basic plane. -/
def IsLowHalf (code : Nat) : Prop := 0xDC00 ≤ code ∧ code < 0xE000

instance (code : Nat) : Decidable (IsHighHalf code) := inferInstanceAs (Decidable (_ ∧ _))

instance (code : Nat) : Decidable (IsLowHalf code) := inferInstanceAs (Decidable (_ ∧ _))

/-- The character of two halves. -/
def joined (high low : Nat) : Char :=
  Char.ofNat (0x10000 + (high - 0xD800) * 0x400 + (low - 0xDC00))

/-- An element of a literal with the given quotes. -/
inductive Element (quote : Quote) where
  /-- A character that stands for itself. -/
  | plain (char : Char) (noQuote : char ≠ quote.char) (noEscape : char ≠ '\\')
    (noReturn : char ≠ '\r') (noFeed : char ≠ '\n')
  /-- The letter of a control character. -/
  | control (name : Control)
  /-- The digit zero for the null character. -/
  | null
  /-- Two digits for a code. -/
  | byte (high low : HexDigit)
  /-- Four digits for a code. -/
  | code (digits : Vector HexDigit 4) (scalar : ¬ IsSurrogate (number digits.toList))
  /-- Twice four digits for the two halves of a code. -/
  | pair (high low : Vector HexDigit 4)
    (isHigh : 0xD800 ≤ number high.toList ∧ number high.toList < 0xDC00)
    (isLow : 0xDC00 ≤ number low.toList ∧ number low.toList < 0xE000)
  /-- Any number of digits for a code, between braces. -/
  | braced (digits : List HexDigit) (present : digits ≠ []) (scalar : ¬ IsSurrogate (number digits))
    (bound : number digits ≤ 0x10FFFF)
  /-- A backslash before a character that stands for itself. -/
  | verbatim (char : Char) (noDigit : char.isDigit = false) (other : char ∉ reserved)
  /-- A line break that does not count. -/
  | continuation (lineBreak : LineBreak)

namespace Element

variable {quote : Quote}

def spelling : Element quote → List Char
  | plain char _ _ _ _ => [char]
  | control name => ['\\', name.letter]
  | null => ['\\', '0']
  | byte high low => ['\\', 'x', high.char, low.char]
  | code digits _ => '\\' :: 'u' :: digits.toList.map HexDigit.char
  | pair high low _ _ =>
    '\\' :: 'u' :: high.toList.map HexDigit.char ++
      '\\' :: 'u' :: low.toList.map HexDigit.char
  | braced digits _ _ _ =>
    '\\' :: 'u' :: '\x7b' :: digits.map HexDigit.char ++ ['\x7d']
  | verbatim char _ _ => ['\\', char]
  | continuation lineBreak => '\\' :: lineBreak.text

def value : Element quote → List Char
  | plain char _ _ _ _ => [char]
  | control name => [name.char]
  | null => ['\x00']
  | byte high low => [Char.ofNat (number [high, low])]
  | code digits _ => [Char.ofNat (number digits.toList)]
  | pair high low _ _ =>
    [Char.ofNat (0x10000 + (number high.toList - 0xD800) * 0x400 +
      (number low.toList - 0xDC00))]
  | braced digits _ _ _ => [Char.ofNat (number digits)]
  | verbatim char _ _ => [char]
  | continuation _ => []

end Element

/-- The text between the quotes of a standard literal: any elements in any order, where no
null is followed by a digit. -/
structure Body (quote : Quote) where
  elements : List (Element quote)
  nulls : ∀ front back, elements = front ++ Element.null :: back →
    (back.flatMap Element.spelling).head?.any Char.isDigit = false

namespace Body

variable {quote : Quote}

/-- The literal with its quotes. -/
def literal (body : Body quote) : String :=
  String.ofList (quote.char :: body.elements.flatMap Element.spelling ++ [quote.char])

/-- The values of the elements, one after the other. -/
def value (body : Body quote) : String :=
  String.ofList (body.elements.flatMap Element.value)

end Body

/-! ### Digits -/

theorem hexDigit?_char (digit : HexDigit) : hexDigit? digit.char = some digit.value.val := by
  have each : ∀ (value : Fin 16) (capital : Bool),
      hexDigit? (HexDigit.char ⟨value, capital⟩) = some value.val := by
    decide
  exact each digit.value digit.capital

theorem char_ne_of_hexDigit? {char : Char} (none : hexDigit? char = none) (digit : HexDigit) :
    digit.char ≠ char := by
  rintro rfl
  rw [hexDigit?_char] at none
  cases none

theorem number_cons (digit : HexDigit) (rest : List HexDigit) :
    number (digit :: rest) = digit.value.val * 16 ^ rest.length + number rest := by
  rw [number, List.reverse_cons, List.map_append, Nat.ofDigits_append, List.length_map,
    List.length_reverse, List.map_singleton, Nat.ofDigits_singleton, Nat.mul_comm, Nat.add_comm]
  rfl

theorem number_lt (digits : List HexDigit) : number digits < 16 ^ digits.length := by
  induction digits with
  | nil => exact Nat.one_pos
  | cons digit rest inductionHypothesis =>
    rw [number_cons, List.length_cons, Nat.pow_succ]
    have small := digit.value.isLt
    calc digit.value.val * 16 ^ rest.length + number rest
        < digit.value.val * 16 ^ rest.length + 16 ^ rest.length := by omega
      _ = (digit.value.val + 1) * 16 ^ rest.length := by rw [Nat.succ_mul]
      _ ≤ 16 * 16 ^ rest.length := Nat.mul_le_mul_right _ small
      _ = 16 ^ rest.length * 16 := Nat.mul_comm _ _

/-- One more digit takes a place behind those that are read. -/
theorem shift_number (value : Nat) (digit : HexDigit) (rest : List HexDigit) :
    value * 16 ^ (digit :: rest).length + number (digit :: rest) =
      (value * 16 + digit.value.val) * 16 ^ rest.length + number rest := by
  rw [number_cons, List.length_cons, Nat.pow_succ, Nat.add_mul, Nat.mul_assoc value 16,
    Nat.mul_comm 16]
  omega

theorem readDigits_map (value : Nat) (digits : List HexDigit) (rest : List Char) :
    readDigits digits.length value (digits.map HexDigit.char ++ rest) =
      (some (value * 16 ^ digits.length + number digits), rest) := by
  induction digits generalizing value with
  | nil => simp [readDigits, number]
  | cons digit more inductionHypothesis =>
    rw [shift_number, ← inductionHypothesis, List.map_cons, List.cons_append, List.length_cons,
      readDigits, hexDigit?_char]

theorem readDigits_four (digits : Vector HexDigit 4) (rest : List Char) :
    readDigits 4 0 (digits.toList.map HexDigit.char ++ rest) =
      (some (number digits.toList), rest) := by
  have read := readDigits_map 0 digits.toList rest
  rwa [Vector.length_toList, Nat.zero_mul, Nat.zero_add] at read

/-- Between braces the digits are read as long as the number stays small, and leading zeros
keep it small. -/
theorem readBraced_map {value : Nat} {seen : Bool} {digits : List HexDigit}
    (present : seen = true ∨ digits ≠ [])
    (bound : value * 16 ^ digits.length + number digits ≤ 0x10FFFF) (rest : List Char) :
    readBraced value seen (digits.map HexDigit.char ++ '\x7d' :: rest) =
      (some (value * 16 ^ digits.length + number digits), rest) := by
  induction digits generalizing value seen with
  | nil =>
    have wasSeen : seen = true := present.resolve_right fun none => none rfl
    simp [readBraced, number, wasSeen]
  | cons digit more inductionHypothesis =>
    rw [shift_number] at bound ⊢
    have positive : 0 < 16 ^ more.length := Nat.pow_pos (by omega)
    have small : value * 16 + digit.value.val ≤ 0x10FFFF :=
      Nat.le_trans (Nat.le_mul_of_pos_right _ positive)
        (Nat.le_trans (Nat.le_add_right _ _) bound)
    have fits : value * 16 < 0x100000000 := by omega
    have notClosed : digit.char ≠ '\x7d' := char_ne_of_hexDigit? rfl digit
    rw [← inductionHypothesis (Or.inl rfl) bound, List.map_cons, List.cons_append, readBraced,
      if_neg notClosed, if_pos fits, hexDigit?_char]

/-! ### Codes -/

theorem isHighSurrogate_iff {code : Nat} : isHighSurrogate code = true ↔ IsHighHalf code := by
  rw [isHighSurrogate, Bool.and_eq_true, decide_eq_true_eq, decide_eq_true_eq]
  rfl

theorem isLowSurrogate_iff {code : Nat} : isLowSurrogate code = true ↔ IsLowHalf code := by
  rw [isLowSurrogate, Bool.and_eq_true, decide_eq_true_eq, decide_eq_true_eq]
  rfl

theorem IsHighHalf.isSurrogate {code : Nat} (high : IsHighHalf code) : IsSurrogate code :=
  ⟨high.1, Nat.lt_trans high.2 (by decide)⟩

theorem IsLowHalf.isSurrogate {code : Nat} (low : IsLowHalf code) : IsSurrogate code :=
  ⟨Nat.le_trans (by decide) low.1, low.2⟩

theorem IsLowHalf.not_isHighHalf {code : Nat} (low : IsLowHalf code) : ¬IsHighHalf code :=
  fun high => absurd (Nat.lt_of_le_of_lt low.1 high.2) (Nat.lt_irrefl _)

theorem character_eq {code : Nat} (scalar : ¬ IsSurrogate code) (bound : code ≤ 0x10FFFF) :
    character code = Char.ofNat code := by
  have valid : code.isValidChar := by
    unfold IsSurrogate at scalar
    unfold Nat.isValidChar
    omega
  rw [character, if_pos valid]

theorem character_of_surrogate {code : Nat} (surrogate : IsSurrogate code) :
    character code = '\uFFFD' := by
  have invalid : ¬code.isValidChar := by
    unfold IsSurrogate at surrogate
    unfold Nat.isValidChar
    omega
  rw [character, if_neg invalid]

theorem unit_of_not_high {code : Nat} (notHigh : ¬IsHighHalf code) (rest : List Char) :
    unit code rest = (character code, rest) := by
  rw [unit, if_neg (mt isHighSurrogate_iff.mp notHigh)]

/-- A code that is no surrogate stands for its character, whatever follows. -/
theorem numeric_of_scalar {code : Nat} (scalar : ¬ IsSurrogate code) (bound : code ≤ 0x10FFFF)
    (letter : Char) (rest : List Char) :
    numeric letter (some code, rest) = ([Char.ofNat code], rest) := by
  rw [numeric, unit_of_not_high fun high => scalar high.isSurrogate, character_eq scalar bound]

theorem readCode_four (digits : Vector HexDigit 4) (rest : List Char) :
    readCode (digits.toList.map HexDigit.char ++ rest) = (some (number digits.toList), rest) := by
  rw [← readDigits_four]
  cases spelled : digits.toList with
  | nil =>
    have four := digits.length_toList
    rw [spelled] at four
    cases four
  | cons digit more =>
    have notBraced : digit.char ≠ '\x7b' := char_ne_of_hexDigit? rfl digit
    rw [List.map_cons, List.cons_append, readCode, if_neg notBraced]

theorem readCode_braced {digits : List HexDigit} (present : digits ≠ [])
    (bound : number digits ≤ 0x10FFFF) (rest : List Char) :
    readCode ('\x7b' :: (digits.map HexDigit.char ++ '\x7d' :: rest)) =
      (some (number digits), rest) := by
  have inRange : 0 * 16 ^ digits.length + number digits ≤ 0x10FFFF := by
    rwa [Nat.zero_mul, Nat.zero_add]
  have read := @readBraced_map 0 false digits (Or.inr present) inRange rest
  rwa [Nat.zero_mul, Nat.zero_add] at read

theorem number_four_lt (digits : Vector HexDigit 4) : number digits.toList < 0x10000 := by
  have bound := number_lt digits.toList
  rwa [digits.length_toList] at bound

theorem unit_of_pair {high low : Nat} {rest left : List Char} (isHigh : IsHighHalf high)
    (followed : lowSurrogate? rest = some (low, left)) (isLow : IsLowHalf low) :
    unit high rest = (joined high low, left) := by
  obtain ⟨highLower, highUpper⟩ := isHigh
  obtain ⟨lowLower, lowUpper⟩ := isLow
  have scalar : ¬IsSurrogate (0x10000 + (high - 0xD800) * 0x400 + (low - 0xDC00)) := by
    unfold IsSurrogate
    omega
  rw [unit, if_pos (isHighSurrogate_iff.mpr ⟨highLower, highUpper⟩), followed]
  dsimp only
  rw [character_eq scalar (by omega)]
  rfl

/-- The two halves of a pair are read together. -/
theorem numeric_pair {high : Nat} {low : Vector HexDigit 4}
    (isHigh : 0xD800 ≤ high ∧ high < 0xDC00)
    (isLow : 0xDC00 ≤ number low.toList ∧ number low.toList < 0xE000)
    (letter : Char) (rest : List Char) :
    numeric letter (some high, '\\' :: 'u' :: (low.toList.map HexDigit.char ++ rest)) =
      ([Char.ofNat (0x10000 + (high - 0xD800) * 0x400 + (number low.toList - 0xDC00))], rest) := by
  have followed : lowSurrogate? ('\\' :: 'u' :: (low.toList.map HexDigit.char ++ rest)) =
      some (number low.toList, rest) := by
    rw [lowSurrogate?, readDigits_four]
    exact if_pos (isLowSurrogate_iff.mpr isLow)
  rw [numeric, unit_of_pair isHigh followed isLow]
  rfl

/-! ### One element -/

theorem decode_cons_of_ne {char : Char} (noEscape : char ≠ '\\') (rest : List Char) :
    decode (char :: rest) = char :: decode rest := by
  rw [decode]
  · exact fun same => absurd same noEscape
  · exact fun _ _ same => absurd same noEscape

theorem decode_escape (letter : Char) (rest : List Char) :
    decode ('\\' :: letter :: rest) =
      (escape letter rest).1 ++ decode (escape letter rest).2 := by
  rw [decode]

theorem escape_control (name : Control) (rest : List Char) :
    escape name.letter rest = ([name.char], rest) := by
  cases name <;> rfl

theorem escape_byte (high low : HexDigit) (rest : List Char) :
    escape 'x' (high.char :: low.char :: rest) = ([Char.ofNat (number [high, low])], rest) := by
  have small : number [high, low] < 0x100 := number_lt [high, low]
  have scalar : ¬ IsSurrogate (number [high, low]) := fun surrogate => by
    have bound := surrogate.1
    omega
  have read := readDigits_map 0 [high, low] rest
  rw [Nat.zero_mul, Nat.zero_add] at read
  show numeric 'x' (readDigits 2 0 _) = _
  exact (congrArg (numeric 'x') read).trans (numeric_of_scalar scalar (by omega) _ _)

theorem control?_eq_none {char : Char} (other : char ∉ reserved) : control? char = none := by
  unfold control?
  split <;> first | rfl | exact absurd (by decide) other

theorem escape_verbatim {char : Char} (noDigit : char.isDigit = false) (other : char ∉ reserved)
    (rest : List Char) : escape char rest = ([char], rest) := by
  have noControl := control?_eq_none other
  have noZero : char ≠ '0' := by
    rintro rfl
    cases noDigit
  simp only [reserved, List.mem_cons, not_or] at other
  obtain ⟨-, -, -, -, -, -, noByte, noCode, noFeed, noReturn, noLine, noParagraph, -⟩ := other
  simp only [escape, noControl, if_neg noByte, if_neg noCode, if_neg noZero, if_neg noReturn,
    noFeed, noLine, noParagraph, or_self, if_false]

/-- After a carriage return, the next character is looked at and kept. -/
theorem escape_return {rest : List Char} (noFeed : rest.head? ≠ some '\n') :
    escape '\r' rest = ([], rest) := by
  cases rest with
  | nil => rfl
  | cons char more =>
    have noFeedHere : char ≠ '\n' := fun same => noFeed (same ▸ rfl)
    simp [escape, control?, noFeedHere]

/-- A line break is gone with its backslash. -/
theorem decode_lineBreak (lineBreak : LineBreak) {rest : List Char}
    (noFeed : rest.head? ≠ some '\n') :
    decode ('\\' :: (lineBreak.text ++ rest)) = decode rest := by
  cases lineBreak with
  | carriageReturn =>
    rw [LineBreak.text, List.singleton_append, decode_escape, escape_return noFeed]
    rfl
  | _ =>
    rw [LineBreak.text, List.cons_append, decode_escape]
    rfl

/-- An element is read as its value, and what follows is left as it is. -/
theorem decode_spelling_append {quote : Quote} (element : Element quote) {rest : List Char}
    (noFeed : rest.head? ≠ some '\n')
    (afterNull : element = .null → rest.head?.any Char.isDigit = false) :
    decode (element.spelling ++ rest) = element.value ++ decode rest := by
  cases element with
  | plain char _ noEscape _ _ => exact decode_cons_of_ne noEscape rest
  | control name =>
    show decode ('\\' :: name.letter :: rest) = _
    rw [decode_escape, escape_control]
    rfl
  | null =>
    have stands : escape '0' rest = (['\x00'], rest) := by
      simp [escape, control?, afterNull rfl]
    show decode ('\\' :: '0' :: rest) = _
    rw [decode_escape, stands]
    rfl
  | byte high low =>
    show decode ('\\' :: 'x' :: high.char :: low.char :: rest) = _
    rw [decode_escape, escape_byte]
    rfl
  | code digits scalar =>
    have bound := number_four_lt digits
    have stands : escape 'u' (digits.toList.map HexDigit.char ++ rest) =
        ([Char.ofNat (number digits.toList)], rest) := by
      show numeric 'u' (readCode _) = _
      rw [readCode_four, numeric_of_scalar scalar (by omega)]
    show decode ('\\' :: 'u' :: (digits.toList.map HexDigit.char ++ rest)) = _
    rw [decode_escape, stands]
    rfl
  | pair high low isHigh isLow =>
    have stands : escape 'u' (high.toList.map HexDigit.char ++
        '\\' :: 'u' :: (low.toList.map HexDigit.char ++ rest)) =
          ([Char.ofNat (0x10000 + (number high.toList - 0xD800) * 0x400 +
            (number low.toList - 0xDC00))], rest) := by
      show numeric 'u' (readCode _) = _
      rw [readCode_four, numeric_pair isHigh isLow]
    rw [Element.spelling, List.cons_append, List.cons_append, List.cons_append, List.cons_append,
      List.append_assoc, List.cons_append, List.cons_append, decode_escape, stands]
    rfl
  | braced digits present scalar bound =>
    have stands : escape 'u' ('\x7b' :: (digits.map HexDigit.char ++ '\x7d' :: rest)) =
        ([Char.ofNat (number digits)], rest) := by
      show numeric 'u' (readCode _) = _
      rw [readCode_braced present bound, numeric_of_scalar scalar bound]
    rw [Element.spelling, List.append_assoc, List.cons_append, List.cons_append, List.cons_append,
      List.singleton_append, decode_escape, stands]
    rfl
  | verbatim char noDigit other =>
    show decode ('\\' :: char :: rest) = _
    rw [decode_escape, escape_verbatim noDigit other]
    rfl
  | continuation lineBreak =>
    rw [Element.spelling, List.cons_append, decode_lineBreak lineBreak noFeed]
    rfl

/-! ### All elements -/

theorem head?_spelling_ne {quote : Quote} (element : Element quote) (rest : List Char) :
    (element.spelling ++ rest).head? ≠ some '\n' := by
  cases element with
  | plain char _ _ _ noFeed => exact fun same => noFeed (Option.some.inj same)
  | _ => exact fun same => absurd (Option.some.inj same) (by decide)

theorem head?_flatMap_spelling_ne {quote : Quote} (elements : List (Element quote)) :
    (elements.flatMap Element.spelling).head? ≠ some '\n' := by
  cases elements with
  | nil => exact fun none => nomatch none
  | cons element rest => exact head?_spelling_ne element _

/-- The text between the quotes is read element by element. -/
theorem decode_flatMap_spelling {quote : Quote} {elements : List (Element quote)}
    (nulls : ∀ front back, elements = front ++ Element.null :: back →
      (back.flatMap Element.spelling).head?.any Char.isDigit = false) :
    decode (elements.flatMap Element.spelling) = elements.flatMap Element.value := by
  induction elements with
  | nil => rw [List.flatMap_nil, decode, List.flatMap_nil]
  | cons element rest inductionHypothesis =>
    have afterNull : element = .null →
        (rest.flatMap Element.spelling).head?.any Char.isDigit = false := by
      rintro rfl
      exact nulls [] rest rfl
    have nullsAfter := inductionHypothesis fun front back split =>
      nulls (element :: front) back (congrArg (element :: ·) split)
    rw [List.flatMap_cons, List.flatMap_cons,
      decode_spelling_append element (head?_flatMap_spelling_ne rest) afterNull, nullsAfter]

theorem unquote_quoted (quote : Quote) (text : List Char) :
    unquote (quote.char :: text ++ [quote.char]) = text := by
  have isQuote : quote.char = '"' ∨ quote.char = '\'' := by cases quote <;> decide
  rw [List.cons_append, unquote, if_pos isQuote, List.getLast?_concat, if_pos rfl,
    List.dropLast_concat]

/-- A standard literal stands for the values of its elements, one after the other, whatever
the elements are and however many there are of them. -/
theorem value_literal {quote : Quote} (body : Body quote) :
    StringLiteral.value body.literal = body.value := by
  rw [StringLiteral.value, Body.literal, String.toList_ofList, unquote_quoted,
    decode_flatMap_spelling body.nulls, Body.value]

example : StringLiteral.value "'\\0\\uD83D\\uDE00\\\r\n\\x41\\q'" = "\x00😀Aq" := by decide +kernel

end ErrorLint.StringLiteral
