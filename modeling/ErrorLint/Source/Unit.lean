/-
This file holds what is checked: a source text in one of three dialects, perhaps with
the path of the file from which it comes. The dialect of a file follows from the
extension of its name, and a file with any other extension is taken for JavaScript.
-/

import ErrorLint.Config.Error
import ErrorLint.Text.Search
import ErrorLint.Tree.Lowering

namespace ErrorLint

/-- The grammar of a source text. -/
inductive Dialect where
  | javascript
  | typescript
  | tsx
  deriving Repr, DecidableEq

namespace Dialect

def all : List Dialect := [.javascript, .typescript, .tsx]

def name : Dialect → String
  | .javascript => "javascript"
  | .typescript => "typescript"
  | .tsx => "tsx"

def ofName? (name : String) : Option Dialect := all.find? (·.name = name)

/-- The dialect of a file extension in small letters. -/
def ofExtension? : String → Option Dialect
  | "js" | "jsx" | "mjs" | "cjs" => some .javascript
  | "ts" | "mts" | "cts" => some .typescript
  | "tsx" => some .tsx
  | _ => none

end Dialect

namespace Path

/-- The last component of a path that is not a dot. A path that ends in two dots has
no file name. -/
def fileName? (path : List Char) : Option (List Char) :=
  let components := (Text.pieces '/' path).filter fun part => part ≠ [] && part ≠ ['.']
  components.getLast?.filter (· ≠ ['.', '.'])

/-- The part of the file name after its last dot, unless that dot is the first
character. -/
def extension? (path : List Char) : Option (List Char) := do
  let name ← fileName? path
  let extension ← Text.afterLast? '.' name
  guard (extension.length + 1 < name.length)
  return extension

end Path

/-- The dialect of a file. -/
def Dialect.ofPath? (path : String) : Option Dialect :=
  (Path.extension? path.toList).bind fun extension =>
    ofExtension? (String.ofList (extension.map Char.toLower))

/-- What a grammar makes of a source text: a concrete tree, and whether it had to
recover from an error. -/
structure Parse where
  hasErrors : Bool
  root : Concrete

/-- A grammar for each dialect. -/
abbrev Parser := String → Dialect → Parse

/-- The lowered tree of a source text. -/
def SourceTree.ofSource (parser : Parser) (source : String) (dialect : Dialect) : SourceTree :=
  let parse := parser source dialect
  ⟨source, Lowering.lower source.toList parse.root, parse.hasErrors⟩

/-- A source text to check. -/
structure SourceUnit where
  path : Option String
  text : String
  dialect : Dialect
  deriving Repr, DecidableEq

namespace SourceUnit

/-- The name of a unit in messages. -/
def label (unit : SourceUnit) : String := unit.path.getD "<source>"

/-- The unit of a file with the given bytes, if there is such a file. -/
def ofFile (path : String) (content : Option ByteArray) : Except SourceError SourceUnit :=
  match content with
  | none => .error (.unreadable path "No such file or directory (os error 2)")
  | some bytes =>
    match String.fromUTF8? bytes with
    | some text => .ok ⟨some path, text, (Dialect.ofPath? path).getD .javascript⟩
    | none => .error (.unreadable path "stream did not contain valid UTF-8")

end SourceUnit

end ErrorLint
