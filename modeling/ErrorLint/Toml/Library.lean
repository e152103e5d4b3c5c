/-
This file holds what reads and writes TOML. Configurations are read and written through
a library of which no more is known than the two functions; one such library consists of
the reader and the writer of this project. Values are written as tables, except for null
and integers of more than sixty-four bits with their sign, which TOML cannot express.
-/

import ErrorLint.Config.Value
import ErrorLint.Toml.Reader
import ErrorLint.Toml.Writer

namespace ErrorLint

/-- What reads and writes TOML. Both functions fail with a message. -/
structure TomlLibrary where
  /-- The root table of a text, in the order of the text. -/
  read : String → Except String (List (String × TomlValue))
  /-- A text for a root table with the given entries. -/
  write : List (String × Value) → Except String String

namespace TomlValue

mutual

/-- The TOML value of a value, if it has one. -/
def ofValue? : Value → Option TomlValue
  | .null => none
  | .boolean value => some (.boolean value)
  | .integer value => if Toml.isWord value then some (.integer (Int64.ofInt value)) else none
  | .float value => some (.float value)
  | .string value => some (.string value)
  | .array items => (ofItems? items).map .array
  | .object entries => (ofEntries? entries).map .table

def ofItems? : List Value → Option (List TomlValue)
  | [] => some []
  | item :: rest => do return (← ofValue? item) :: (← ofItems? rest)

def ofEntries? : List (String × Value) → Option (List (String × TomlValue))
  | [] => some []
  | (key, value) :: rest => do return (key, ← ofValue? value) :: (← ofEntries? rest)

end

end TomlValue

namespace Toml

/-- Reads a text with a limit of nesting, if there is one. -/
def readText (limit : Option Nat) (text : String) :
    Except String (List (String × TomlValue)) :=
  match limit.elim (root? text.toList) (readTable? · text.toList) with
  | some entries => .ok entries
  | none => .error "not a TOML document"

/-- Writes a root table with the given entries. -/
def writeText (entries : List (String × Value)) : Except String String :=
  match TomlValue.ofEntries? entries with
  | some entries => .ok (String.ofList (writeTable entries))
  | none => .error "options that TOML cannot express"

/-- The library of this project. The reader may have a limit of nesting. -/
def library (limit : Option Nat) : TomlLibrary := ⟨readText limit, writeText⟩

end Toml

end ErrorLint
