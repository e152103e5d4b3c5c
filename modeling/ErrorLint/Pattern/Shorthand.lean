/-
This file holds the sets of characters that a pattern can name in short: those of one
letter, and those of ASCII whose names stand between colons.
-/

import ErrorLint.Unicode.Query

namespace ErrorLint.Pattern

open Unicode (CharSet)

/-- The union of several ranges, which ascend. -/
def rangesOf (bounds : List (Char × Char)) : CharSet :=
  ⟨bounds.map fun (first, last) => ⟨first.toNat, last.toNat⟩⟩

def digits : CharSet := Unicode.category "Nd"

def blanks : CharSet := Unicode.tabled "White_Space"

/-- The characters of words. -/
def words : CharSet :=
  .unions [Unicode.alphabetic, Unicode.categories ["Mn", "Mc", "Me", "Nd", "Pc"],
    Unicode.tabled "Join_Control"]

def asciiDigits : CharSet := rangesOf [('0', '9')]

def asciiBlanks : CharSet := rangesOf [('\t', '\r'), (' ', ' ')]

def asciiWords : CharSet := rangesOf [('0', '9'), ('A', 'Z'), ('_', '_'), ('a', 'z')]

/-- The sets of ASCII characters that have a name of their own. -/
def asciiNamed? : String → Option CharSet
  | "alnum" => some (rangesOf [('0', '9'), ('A', 'Z'), ('a', 'z')])
  | "alpha" => some (rangesOf [('A', 'Z'), ('a', 'z')])
  | "ascii" => some (.range 0 0x7F)
  | "blank" => some (rangesOf [('\t', '\t'), (' ', ' ')])
  | "cntrl" => some ((CharSet.range 0 0x1F).union (.range 0x7F 0x7F))
  | "digit" => some asciiDigits
  | "graph" => some (rangesOf [('!', '~')])
  | "lower" => some (rangesOf [('a', 'z')])
  | "print" => some (rangesOf [(' ', '~')])
  | "punct" => some (rangesOf [('!', '/'), (':', '@'), ('[', '\x60'), ('\x7b', '~')])
  | "space" => some asciiBlanks
  | "upper" => some (rangesOf [('A', 'Z')])
  | "word" => some asciiWords
  | "xdigit" => some (rangesOf [('0', '9'), ('A', 'F'), ('a', 'f')])
  | _ => none

end ErrorLint.Pattern
