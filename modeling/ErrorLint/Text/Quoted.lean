/-
This file quotes a text for a message. The text stands between double quotes, and
whatever could not be seen there is escaped: quotes and backslashes, control and
format characters, blanks other than the space, unassigned code points, and marks
that would join the character before them.
-/

import ErrorLint.Unicode.Property

namespace ErrorLint.Text

/-- The characters that show nothing of their own, the space among them. -/
def invisible : Unicode.CharSet :=
  (Unicode.categories ["Cc", "Cf", "Cs", "Co", "Cn", "Zl", "Zp", "Zs"]).union
    Unicode.graphemeExtend

/-- Whether a character shows as itself when it stands alone. -/
def isVisible (char : Char) : Bool := char = ' ' || !invisible.holds char.toNat

/-- The escape of a character by its code point. -/
def codeEscape (char : Char) : List Char :=
  ['\\', 'u', '\x7b'] ++ Nat.toDigits 16 char.toNat ++ ['\x7d']

/-- How a character is written between the quotes. -/
def quotedChar (char : Char) : List Char :=
  match char with
  | '\x00' => ['\\', '0']
  | '\t' => ['\\', 't']
  | '\r' => ['\\', 'r']
  | '\n' => ['\\', 'n']
  | '\\' => ['\\', '\\']
  | '"' => ['\\', '"']
  | char => if isVisible char then [char] else codeEscape char

/-- The text between double quotes. -/
def quoted (text : String) : String :=
  String.ofList ('"' :: text.toList.flatMap quotedChar ++ ['"'])

end ErrorLint.Text
