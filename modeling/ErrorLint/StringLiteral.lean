/-
This file decodes string literals: the quotes go, and every escape becomes the
character that it stands for, so that two spellings of one message compare equal.
Decoding never fails. A malformed numeric escape stands for its letter, and the
digits that were read before the fault are gone with it; half of a surrogate pair
stands for the replacement character.
-/

namespace ErrorLint.StringLiteral

/-! ### Parts of an escape -/

/-- The value of a hexadecimal digit. -/
def hexDigit? (char : Char) : Option Nat :=
  if '0' ≤ char ∧ char ≤ '9' then some (char.toNat - '0'.toNat)
  else if 'a' ≤ char ∧ char ≤ 'f' then some (char.toNat - 'a'.toNat + 10)
  else if 'A' ≤ char ∧ char ≤ 'F' then some (char.toNat - 'A'.toNat + 10)
  else none

/-- Reads `count` hexadecimal digits onto `value`. The text that is left starts
after the digits read, also if one of them is missing. -/
def readDigits : (count value : Nat) → List Char → Option Nat × List Char
  | 0, value, text => (some value, text)
  | _ + 1, _, [] => (none, [])
  | count + 1, value, char :: rest =>
    match hexDigit? char with
    | some digit => readDigits count (value * 16 + digit) rest
    | none => (none, char :: rest)

/-- Reads the digits of a braced escape up to the closing brace onto `value`,
which has to stay a 32-bit number. A fault takes the offending character along. -/
def readBraced (value : Nat) (digitSeen : Bool) : List Char → Option Nat × List Char
  | [] => (none, [])
  | char :: rest =>
    if char = '\x7d' then
      (if digitSeen then some value else none, rest)
    else if value * 16 < 0x100000000 then
      match hexDigit? char with
      | some digit => readBraced (value * 16 + digit) true rest
      | none => (none, rest)
    else
      (none, rest)

/-- Reads what follows the letter of a Unicode escape: four digits, or any number
of digits in braces. -/
def readCode : List Char → Option Nat × List Char
  | [] => (none, [])
  | char :: rest =>
    if char = '\x7b' then readBraced 0 false rest else readDigits 4 0 (char :: rest)

/-- The character of a code, where a code that is no character becomes the
replacement character. -/
def character (code : Nat) : Char :=
  if code.isValidChar then Char.ofNat code else '\uFFFD'

def isHighSurrogate (code : Nat) : Bool := 0xD800 ≤ code && code < 0xDC00

def isLowSurrogate (code : Nat) : Bool := 0xDC00 ≤ code && code < 0xE000

/-- A low surrogate, if the text starts with one written with four digits. -/
def lowSurrogate? : List Char → Option (Nat × List Char)
  | '\\' :: 'u' :: rest =>
    match readDigits 4 0 rest with
    | (some low, rest) => if isLowSurrogate low then some (low, rest) else none
    | (none, _) => none
  | _ => none

/-- The character that a code stands for. A high surrogate joins the low one that
follows it. -/
def unit (code : Nat) (rest : List Char) : Char × List Char :=
  if isHighSurrogate code then
    match lowSurrogate? rest with
    | some (low, rest) =>
      (character (0x10000 + (code - 0xD800) * 0x400 + (low - 0xDC00)), rest)
    | none => (character code, rest)
  else
    (character code, rest)

/-- A numeric escape stands for the character of its code, or for its own letter
if the code is malformed. -/
def numeric (letter : Char) (read : Option Nat × List Char) : List Char × List Char :=
  match read with
  | (some code, rest) =>
    let (char, rest) := unit code rest
    ([char], rest)
  | (none, rest) => ([letter], rest)

/-- The escapes of one letter that stand for a control character. -/
def control? : Char → Option Char
  | 'n' => some '\n'
  | 't' => some '\t'
  | 'r' => some '\r'
  | 'b' => some '\x08'
  | 'f' => some '\x0c'
  | 'v' => some '\x0b'
  | _ => none

/-- What the escape of `letter` stands for, and the text that is left after it. -/
def escape (letter : Char) (rest : List Char) : List Char × List Char :=
  match control? letter with
  | some char => ([char], rest)
  | none =>
    if letter = 'x' then numeric 'x' (readDigits 2 0 rest)
    else if letter = 'u' then numeric 'u' (readCode rest)
    else if letter = '0' then
      if rest.head?.any Char.isDigit then (['0'], rest) else (['\x00'], rest)
    else if letter = '\r' then
      match rest with
      | '\n' :: rest => ([], rest)
      | rest => ([], rest)
    else if letter = '\n' ∨ letter = '\u2028' ∨ letter = '\u2029' then ([], rest)
    else ([letter], rest)

/-! ### An escape never gives text back -/

theorem length_readDigits_le (count value : Nat) (text : List Char) :
    (readDigits count value text).2.length ≤ text.length := by
  induction count generalizing value text with
  | zero => simp [readDigits]
  | succ count inductionHypothesis =>
    cases text with
    | nil => simp [readDigits]
    | cons char rest =>
      simp only [readDigits]
      split
      · exact Nat.le_succ_of_le (inductionHypothesis _ _)
      · simp

theorem length_readBraced_le (value : Nat) (seen : Bool) (text : List Char) :
    (readBraced value seen text).2.length ≤ text.length := by
  induction text generalizing value seen with
  | nil => simp [readBraced]
  | cons char rest inductionHypothesis =>
    simp only [readBraced]
    split
    · simp
    · split
      · split
        · exact Nat.le_succ_of_le (inductionHypothesis _ _)
        · simp
      · simp

theorem length_readCode_le (text : List Char) :
    (readCode text).2.length ≤ text.length := by
  cases text with
  | nil => simp [readCode]
  | cons char rest =>
    simp only [readCode]
    split
    · exact Nat.le_succ_of_le (length_readBraced_le _ _ _)
    · exact length_readDigits_le _ _ _

theorem length_lowSurrogate?_le {text rest : List Char} {low : Nat}
    (found : lowSurrogate? text = some (low, rest)) : rest.length ≤ text.length := by
  unfold lowSurrogate? at found
  split at found
  · rename_i tail
    have bound := length_readDigits_le 4 0 tail
    split at found
    · rename_i read
      split at found
      · simp only [Option.some.injEq, Prod.mk.injEq] at found
        rw [read, found.2] at bound
        exact Nat.le_trans bound (Nat.le_add_right _ 2)
      · cases found
    · cases found
  · cases found

theorem length_unit_le (code : Nat) (rest : List Char) :
    (unit code rest).2.length ≤ rest.length := by
  unfold unit
  split
  · split
    · rename_i found
      exact length_lowSurrogate?_le found
    · exact Nat.le_refl _
  · exact Nat.le_refl _

theorem length_numeric_le (letter : Char) (read : Option Nat × List Char) :
    (numeric letter read).2.length ≤ read.2.length := by
  obtain ⟨code, rest⟩ := read
  cases code with
  | none => exact Nat.le_refl _
  | some code => exact length_unit_le code rest

theorem length_escape_le (letter : Char) (rest : List Char) :
    (escape letter rest).2.length ≤ rest.length := by
  unfold escape
  split
  · exact Nat.le_refl _
  split
  · exact Nat.le_trans (length_numeric_le _ _) (length_readDigits_le _ _ _)
  split
  · exact Nat.le_trans (length_numeric_le _ _) (length_readCode_le _)
  split
  · split <;> exact Nat.le_refl _
  split
  · split
    · exact Nat.le_succ _
    · exact Nat.le_refl _
  split <;> exact Nat.le_refl _

/-! ### Decoding -/

/-- Decodes the text between the quotes. A backslash with nothing after it stands
for itself. -/
def decode : List Char → List Char
  | [] => []
  | ['\\'] => ['\\']
  | '\\' :: letter :: rest => (escape letter rest).1 ++ decode (escape letter rest).2
  | char :: rest => char :: decode rest
termination_by text => text.length
decreasing_by
  · have bound := length_escape_le letter rest
    simp only [List.length_cons]
    omega
  · simp

/-- The text between the quotes. A quote that is not closed by the same quote is
dropped, and a text without a quote in front is kept whole. -/
def unquote : List Char → List Char
  | [] => []
  | char :: rest =>
    if char = '"' ∨ char = '\'' then
      if rest.getLast? = some char then rest.dropLast else rest
    else
      char :: rest

/-- The value of a string literal, which is given with its quotes. -/
def value (raw : String) : String :=
  String.ofList (decode (unquote raw.toList))

end ErrorLint.StringLiteral
