/-
This file writes and reads keys. A key is bare if it consists of letters, digits,
underscores and dashes, and otherwise quoted on one line. A path is a list of keys with
dots between them.
-/

import ErrorLint.Toml.Quoted

namespace ErrorLint.Toml

/-- The characters of bare keys. -/
def isBareChar (char : Char) : Bool :=
  char.isAlphanum || char = '_' || char = '-'

/-- Writes a key. -/
def writeKey (key : List Char) : List Char :=
  if key ≠ [] && key.all isBareChar then key
  else if !key.any isControl && !key.contains '\\' && !key.contains '"' then
    StringStyle.basic.write key
  else if !key.any isControl && !key.contains '\'' then
    StringStyle.literal.write key
  else
    StringStyle.basic.write key

/-- Writes the keys of a path with dots between them. -/
def writePath : List String → List Char
  | [] => []
  | [key] => writeKey key.toList
  | key :: keys => writeKey key.toList ++ '.' :: writePath keys

/-- Reads a key. -/
def readKey : Reader String := fun text =>
  match text with
  | '"' :: rest => (StringStyle.basic.body rest).map fun (key, rest) => (String.ofList key, rest)
  | '\'' :: rest =>
    (StringStyle.literal.body rest).map fun (key, rest) => (String.ofList key, rest)
  | text =>
    match text.takeWhile isBareChar with
    | [] => none
    | key => some (String.ofList key, text.dropWhile isBareChar)

/-- Reads keys with dots between them; blanks may stand around each. -/
def readKeys : (fuel : Nat) → Reader (List String)
  | 0, _ => none
  | fuel + 1, text => do
    let (key, text) ← readKey (StringStyle.dropBlanks text)
    match StringStyle.dropBlanks text with
    | '.' :: rest =>
      let (keys, rest) ← readKeys fuel rest
      return (key :: keys, rest)
    | rest => return ([key], rest)

/-- Reads a path of fewer keys than a limit. -/
def readPath (limit : Nat) : Reader (List String) := fun text => do
  let (keys, rest) ← readKeys text.length text
  if keys.length < limit then some (keys, rest) else none

end ErrorLint.Toml
