/-
This file writes TOML documents. Values of a table come before its sub-tables, and each
sub-table has a section of its own. A heading is left out if all that its table has are
sub-tables, which name it anyway. A blank line stands before every heading, except at
the start of the text. An array of two or more items has a line for each item.
-/

import ErrorLint.Toml.Document
import ErrorLint.Toml.Key
import ErrorLint.Toml.Number

namespace ErrorLint.Toml

/-! ### From tables to sections -/

/-- The assignments for those entries that have no headings of their own. -/
def plainAssignments (entries : List (String × TomlValue)) : List Assignment :=
  (entries.filter fun entry => !entry.2.hasHeading).map fun (key, value) => ⟨[key], value⟩

/-- The section of a table itself, unless its heading can be left out. -/
def ownSection (path : List String) (entries : List (String × TomlValue)) : List Section :=
  let assignments := plainAssignments entries
  if assignments.isEmpty && !entries.isEmpty then [] else [⟨⟨false, path⟩, assignments⟩]

mutual

/-- The sections of a value at a path; only tables and arrays of tables have any. -/
def sectionsOf (path : List String) : TomlValue → List Section
  | .table entries => ownSection path entries ++ entrySections path entries
  | .array items => if (TomlValue.array items).hasHeading then itemSections path items else []
  | _ => []

/-- The sections of the entries of a table at a path. -/
def entrySections (path : List String) : List (String × TomlValue) → List Section
  | [] => []
  | (key, value) :: rest => sectionsOf (path ++ [key]) value ++ entrySections path rest

/-- The sections of the items of an array of tables at a path. -/
def itemSections (path : List String) : List TomlValue → List Section
  | [] => []
  | .table entries :: rest =>
    ⟨⟨true, path⟩, plainAssignments entries⟩ :: entrySections path entries ++
      itemSections path rest
  | _ :: rest => itemSections path rest

end

/-- The document that is written for a root table. -/
def Document.ofEntries (entries : List (String × TomlValue)) : Document :=
  ⟨plainAssignments entries, entrySections [] entries⟩

/-! ### From sections to text -/

/-- Writes the items of an array, of which the texts are given. -/
def writeItems : List (List Char) → List Char
  | [] => ['[', ']']
  | [item] => '[' :: item ++ [']']
  | items => '[' :: items.flatMap (fun item => "\n    ".toList ++ item ++ [',']) ++ ['\n', ']']

/-- Writes the entries of an inline table, of which the texts are given. -/
def writeInlineEntries : List (List Char) → List Char
  | [] => ['\x7b', '\x7d']
  | entries => '\x7b' :: ' ' :: (", ".toList).intercalate entries ++ [' ', '\x7d']

mutual

/-- Writes a value after an equals sign or in an array. -/
def writeValue : TomlValue → List Char
  | .string value => quotedText value.toList
  | .integer value => writeInteger value.toInt
  | .float value => writeFloat value
  | .boolean value => if value then "true".toList else "false".toList
  | .dateTime value => value.text
  | .array items => writeItems (valueTexts items)
  | .table entries => writeInlineEntries (entryTexts entries)

def valueTexts : List TomlValue → List (List Char)
  | [] => []
  | item :: rest => writeValue item :: valueTexts rest

def entryTexts : List (String × TomlValue) → List (List Char)
  | [] => []
  | (key, value) :: rest =>
    (writeKey key.toList ++ " = ".toList ++ writeValue value) :: entryTexts rest

end

def Assignment.write (assignment : Assignment) : List Char :=
  writePath assignment.path ++ " = ".toList ++ writeValue assignment.value ++ ['\n']

def Heading.write (heading : Heading) : List Char :=
  if heading.isItem then "[[".toList ++ writePath heading.path ++ "]]\n".toList
  else '[' :: writePath heading.path ++ "]\n".toList

def Section.write (part : Section) : List Char :=
  part.heading.write ++ part.assignments.flatMap Assignment.write

/-- Writes a document. -/
def Document.write (document : Document) : List Char :=
  let assignments := document.assignments.flatMap Assignment.write
  match document.sections with
  | [] => assignments
  | first :: rest =>
    assignments ++ (if assignments.isEmpty then [] else ['\n']) ++ first.write ++
      rest.flatMap fun part => '\n' :: part.write

/-- Writes a root table. -/
def writeTable (entries : List (String × TomlValue)) : List Char :=
  (Document.ofEntries entries).write

end ErrorLint.Toml
