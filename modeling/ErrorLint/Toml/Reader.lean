/-
This file reads TOML documents. A document consists of lines: each is blank, a heading,
or an assignment, and may end in a comment. Keys and values may be nested below a limit,
which bounds the recursion on values. The format has no such limit, so what a text means
is found with one that is longer than the text.
-/

import ErrorLint.Toml.Document
import ErrorLint.Toml.Key
import ErrorLint.Toml.Number

namespace ErrorLint.Toml

open StringStyle (newline dropBlanks)

variable (limit : Nat)

/-! ### Values -/

/-- The text after the blanks, newlines and comments at its start. Every comment must
end in a newline. -/
def dropGap : (inComment : Bool) → List Char → Option (List Char)
  | false, '#' :: rest => dropGap true rest
  | _, '\r' :: '\n' :: rest => dropGap false rest
  | _, '\n' :: rest => dropGap false rest
  | false, char :: rest =>
    if char = ' ' || char = '\t' then dropGap false rest else some (char :: rest)
  | true, char :: rest => if isControl char then none else dropGap true rest
  | false, [] => some []
  | true, [] => none

/-- Reads the items of an array up to its closing bracket. A comma may follow the last
item. -/
def readItems (item : Reader TomlValue) : (fuel : Nat) → Reader (List TomlValue)
  | 0, _ => none
  | fuel + 1, text => do
    match ← dropGap false text with
    | ']' :: rest => return ([], rest)
    | text =>
      let (first, text) ← item text
      match ← dropGap false text with
      | ',' :: rest =>
        let (others, rest) ← readItems item fuel rest
        return (first :: others, rest)
      | ']' :: rest => return ([first], rest)
      | _ => none

/-- Reads a path, an equals sign and a value. -/
def readAssignment (value : Reader TomlValue) : Reader Assignment := fun text => do
  let (path, text) ← readPath limit text
  let (_, text) ← expect '=' text
  let (value, text) ← value (dropBlanks text)
  return (⟨path, value⟩, text)

/-- Reads the assignments of an inline table up to its closing brace. No comma may
follow the last one. -/
def readInlineAssignments (value : Reader TomlValue) : (fuel : Nat) → Reader (List Assignment)
  | 0, _ => none
  | fuel + 1, text => do
    let (first, text) ← readAssignment limit value text
    match dropBlanks text with
    | ',' :: rest =>
      let (others, rest) ← readInlineAssignments value fuel rest
      return (first :: others, rest)
    | '\x7d' :: rest => return ([first], rest)
    | _ => none

/-- Reads the rest of an inline table. -/
def readInlineTable (value : Reader TomlValue) : Reader TomlValue := fun text =>
  match dropBlanks text with
  | '\x7d' :: rest => some (.table [], rest)
  | text => do
    let (assignments, rest) ← readInlineAssignments limit value text.length text
    return (.table (← entriesOf? assignments), rest)

/-- Reads a value that has no others inside. -/
def readScalar : Reader TomlValue := fun text =>
  match text with
  | 't' :: 'r' :: 'u' :: 'e' :: rest => some (.boolean true, rest)
  | 'f' :: 'a' :: 'l' :: 's' :: 'e' :: rest => some (.boolean false, rest)
  | text =>
    ((StringStyle.read text).map fun (value, rest) => (.string (String.ofList value), rest)) <|>
    ((DateTime.read text).map fun (value, rest) => (.dateTime value, rest)) <|>
    ((readFloat text).map fun (value, rest) => (.float value, rest)) <|>
    ((readInteger text).map fun (value, rest) => (.integer (Int64.ofInt value), rest))

/-- Reads a value with at most `depth` brackets and braces around each other. -/
def readValue : (depth : Nat) → Reader TomlValue
  | 0, text => readScalar text
  | depth + 1, '[' :: rest => do
    let (items, rest) ← readItems (readValue depth) rest.length rest
    return (.array items, rest)
  | depth + 1, '\x7b' :: rest => readInlineTable limit (readValue depth) rest
  | _ + 1, text => readScalar text

/-! ### Lines -/

/-- The text after the rest of a line, which may have blanks and a comment. -/
def endOfLine (text : List Char) : Option (List Char) :=
  match dropBlanks text with
  | [] => some []
  | '#' :: rest => lineBreak (rest.dropWhile fun char => !isControl char)
  | rest => lineBreak rest
where
  lineBreak (text : List Char) : Option (List Char) :=
    match text with
    | [] => some []
    | text => (newline text).map (·.2)

/-- What a line says. -/
inductive Line where
  | blank
  | heading (heading : Heading)
  | assignment (assignment : Assignment)

/-- Reads the first line of a text, without the blanks before it. -/
def readLine : Reader Line := fun text => do
  match text with
  | '[' :: '[' :: rest =>
    let (path, rest) ← readPath limit rest
    let (_, rest) ← expect ']' rest
    let (_, rest) ← expect ']' rest
    return (.heading ⟨true, path⟩, ← endOfLine rest)
  | '[' :: rest =>
    let (path, rest) ← readPath limit rest
    let (_, rest) ← expect ']' rest
    return (.heading ⟨false, path⟩, ← endOfLine rest)
  | text =>
    match endOfLine text with
    | some rest => return (.blank, rest)
    | none =>
      let (assignment, rest) ← readAssignment limit (readValue limit (limit - 1)) text
      return (.assignment assignment, ← endOfLine rest)

/-- Reads the lines of a text one after the other. -/
def readLines : (fuel : Nat) → List Char → Option (List Line)
  | fuel, text =>
    match dropBlanks text, fuel with
    | [], _ => some []
    | _, 0 => none
    | text, fuel + 1 => do
      let (first, rest) ← readLine limit text
      return first :: (← readLines fuel rest)

/-- The document of a list of lines: each heading has the assignments that follow it. -/
def Document.ofLines : List Line → Document
  | [] => ⟨[], []⟩
  | line :: lines =>
    let rest := ofLines lines
    match line with
    | .blank => rest
    | .assignment assignment => { rest with assignments := assignment :: rest.assignments }
    | .heading heading => ⟨[], ⟨heading, rest.assignments⟩ :: rest.sections⟩

/-- Reads a document, which may begin with a byte order mark. -/
def Document.read? (text : List Char) : Option Document :=
  let text := if text.head? = some '\ufeff' then text.drop 1 else text
  (readLines limit text.length text).map ofLines

/-- The root table of a text, if keys and values are nested below the limit. -/
def readTable? (text : List Char) : Option (List (String × TomlValue)) := do
  (← Document.read? limit text).entries?

/-- The root table of a text, however deep its keys and values are nested: there are no
more of them around each other than characters in the text. -/
def root? (text : List Char) : Option (List (String × TomlValue)) :=
  readTable? (text.length + 2) text

end ErrorLint.Toml
