/-
This file writes and reads strings. There are four styles: a string is escaped or
literal, and it stays on its line or runs over several. Among the styles that need no
escapes the first in a fixed order is taken, and only a text that fits none of them is
written with escapes.
-/

import ErrorLint.Toml.DateTime

namespace ErrorLint.Toml

/-- The control characters that cannot stand unescaped; a tab can. -/
def isControl (char : Char) : Bool :=
  (char.toNat < 0x20 && char ≠ '\t') || char.toNat = 0x7F

/-- A way to write a string. -/
structure StringStyle where
  escaped : Bool
  multiline : Bool
  deriving Repr, DecidableEq

namespace StringStyle

def basic : StringStyle := ⟨true, false⟩

def literal : StringStyle := ⟨false, false⟩

def multilineBasic : StringStyle := ⟨true, true⟩

def multilineLiteral : StringStyle := ⟨false, true⟩

/-- The character that encloses the string. -/
def quote (style : StringStyle) : Char := if style.escaped then '"' else '\''

/-- The quotes at either end. -/
def delimiter (style : StringStyle) : List Char :=
  List.replicate (if style.multiline then 3 else 1) style.quote

/-! ### Writing -/

/-- The length of the longest run of a character, where `current` of them have just
been seen and `best` is the longest run so far. -/
def longestRun (wanted : Char) (current best : Nat) : List Char → Nat
  | [] => best
  | char :: rest =>
    if char = wanted then longestRun wanted (current + 1) (max best (current + 1)) rest
    else longestRun wanted 0 best rest

/-- The style in which a text is written. -/
def ofText (text : List Char) : StringStyle :=
  let control := text.any fun char => isControl char && char ≠ '\n'
  let newline := text.contains '\n'
  let backslash := text.contains '\\'
  let doubles := longestRun '"' 0 0 text
  let singles := longestRun '\'' 0 0 text
  if !control && !newline && !backslash && doubles = 0 then basic
  else if !control && !newline && singles = 0 then literal
  else if !control && !backslash && doubles ≤ 2 then multilineBasic
  else if !control && singles ≤ 2 then multilineLiteral
  else ⟨true, newline⟩

/-- A hexadecimal digit with capital letters. -/
def hexDigit (number : Nat) : Char := (Nat.digitChar number).toUpper

/-- How a character other than a quote is written where escapes are read. -/
def escapedChar (multiline : Bool) (char : Char) : List Char :=
  match char with
  | '\x08' => ['\\', 'b']
  | '\t' => ['\\', 't']
  | '\n' => if multiline then ['\n'] else ['\\', 'n']
  | '\x0c' => ['\\', 'f']
  | '\r' => ['\\', 'r']
  | '\\' => ['\\', '\\']
  | char =>
    if isControl char then
      ['\\', 'u', '0', '0', hexDigit (char.toNat / 16), hexDigit (char.toNat % 16)]
    else
      [char]

/-- The text with escapes, where `quotes` quotes have just been written. Over several
lines two quotes in a row stand for themselves, on one line none does. -/
def escape (multiline : Bool) (quotes : Nat) : List Char → List Char
  | [] => []
  | char :: rest =>
    if char = '"' then
      if multiline && quotes < 2 then '"' :: escape multiline (quotes + 1) rest
      else '\\' :: '"' :: escape multiline 0 rest
    else
      escapedChar multiline char ++ escape multiline 0 rest

/-- Writes a string. Over several lines the text begins on a line of its own if it has
several lines. -/
def write (style : StringStyle) (text : List Char) : List Char :=
  style.delimiter ++
    (if style.multiline && text.contains '\n' then ['\n'] else []) ++
    (if style.escaped then escape style.multiline 0 text else text) ++
    style.delimiter

/-! ### Reading -/

/-- Reads a newline, which may have a carriage return. -/
def newline : Reader Unit
  | '\n' :: rest => some ((), rest)
  | '\r' :: '\n' :: rest => some ((), rest)
  | _ => none

/-- The text without the spaces and tabs at its start. -/
def dropBlanks (text : List Char) : List Char :=
  text.dropWhile fun char => char = ' ' || char = '\t'

/-- The text without the spaces, tabs and newlines at its start. -/
def dropBlankLines : List Char → List Char
  | '\r' :: '\n' :: rest => dropBlankLines rest
  | char :: rest =>
    if char = ' ' || char = '\t' || char = '\n' then dropBlankLines rest else char :: rest
  | [] => []

def hexValue? (char : Char) : Option Nat :=
  if char.isDigit then some (char.toNat - '0'.toNat)
  else if 'a' ≤ char && char ≤ 'f' then some (char.toNat - 'a'.toNat + 10)
  else if 'A' ≤ char && char ≤ 'F' then some (char.toNat - 'A'.toNat + 10)
  else none

/-- Reads a code point of exactly `count` hexadecimal digits; `code` is what the digits
before stand for. -/
def codePoint : (count code : Nat) → Reader Char
  | 0, code, rest => if code.isValidChar then some (Char.ofNat code, rest) else none
  | count + 1, code, char :: rest => do codePoint count (code * 16 + (← hexValue? char)) rest
  | _ + 1, _, [] => none

/-- Reads what follows the backslash of an escape. -/
def escapeSequence : Reader Char
  | 'b' :: rest => some ('\x08', rest)
  | 't' :: rest => some ('\t', rest)
  | 'n' :: rest => some ('\n', rest)
  | 'f' :: rest => some ('\x0c', rest)
  | 'r' :: rest => some ('\r', rest)
  | '"' :: rest => some ('"', rest)
  | '\\' :: rest => some ('\\', rest)
  | 'u' :: rest => codePoint 4 0 rest
  | 'U' :: rest => codePoint 8 0 rest
  | _ => none

/-- Reads the next part of the inside of a string that is not a quote: a character, an
escape, a newline, or the end of a line that goes on in the next line. -/
def part (style : StringStyle) : Reader (List Char)
  | [] => none
  | char :: rest =>
    if style.escaped && char = '\\' then
      match newline (dropBlanks rest) with
      | some (_, after) =>
        if style.multiline then some ([], dropBlankLines after) else none
      | none => (escapeSequence rest).map fun (char, rest) => ([char], rest)
    else
      match newline (char :: rest) with
      | some (_, after) => if style.multiline then some (['\n'], after) else none
      | none =>
        if isControl char || char = style.quote then none else some ([char], rest)

/-- The rest of a string on one line, after its first quote. -/
def restOfLine (style : StringStyle) : (fuel : Nat) → Reader (List Char)
  | 0, _ => none
  | fuel + 1, text =>
    if text.head? = some style.quote then some ([], text.drop 1)
    else do
      let (first, text) ← style.part text
      let (others, text) ← style.restOfLine fuel text
      return (first ++ others, text)

/-- The rest of a string over several lines, after its first quotes. Three quotes end
it, and up to two more before them belong to the text. -/
def restOfLines (style : StringStyle) : (fuel : Nat) → Reader (List Char)
  | 0, _ => none
  | fuel + 1, text =>
    let run := (text.takeWhile (· = style.quote)).length
    if 3 ≤ run then
      let kept := min (run - 3) 2
      some (List.replicate kept style.quote, text.drop (kept + 3))
    else if 0 < run then do
      let (others, text) ← style.restOfLines fuel (text.drop run)
      return (List.replicate run style.quote ++ others, text)
    else do
      let (first, text) ← style.part text
      let (others, text) ← style.restOfLines fuel text
      return (first ++ others, text)

/-- Reads what follows the opening quotes. A newline right after three quotes does not
belong to the text. -/
def body (style : StringStyle) : Reader (List Char) := fun text =>
  if style.multiline then
    match newline text with
    | some (_, rest) => style.restOfLines rest.length rest
    | none => style.restOfLines text.length text
  else
    style.restOfLine text.length text

/-- The style that the quotes at the start of a text open, and what follows them. -/
def opening : Reader StringStyle
  | '"' :: '"' :: '"' :: rest => some (multilineBasic, rest)
  | '"' :: rest => some (basic, rest)
  | '\'' :: '\'' :: '\'' :: rest => some (multilineLiteral, rest)
  | '\'' :: rest => some (literal, rest)
  | _ => none

/-- Reads a string in any style. -/
def read : Reader (List Char) := fun text => do
  let (style, rest) ← opening text
  style.body rest

end StringStyle

/-- Writes a string. -/
def quotedText (text : List Char) : List Char :=
  (StringStyle.ofText text).write text

end ErrorLint.Toml
