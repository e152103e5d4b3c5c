/-
This file writes values as JSON, on one line or indented by two spaces. The entries of
an object are written in the order in which they are given.
-/

import ErrorLint.Config.Value

namespace ErrorLint.Value

/-- How a character is written in a JSON string. -/
def jsonChar (char : Char) : List Char :=
  match char with
  | '"' => ['\\', '"']
  | '\\' => ['\\', '\\']
  | '\n' => ['\\', 'n']
  | '\r' => ['\\', 'r']
  | '\t' => ['\\', 't']
  | '\x08' => ['\\', 'b']
  | '\x0c' => ['\\', 'f']
  | char =>
    if char.toNat < 0x20 then
      ['\\', 'u', '0', '0', Nat.digitChar (char.toNat / 16), Nat.digitChar (char.toNat % 16)]
    else
      [char]

/-- A JSON string. -/
def jsonString (text : String) : String :=
  String.ofList ('"' :: text.toList.flatMap jsonChar ++ ['"'])

/-- A scalar as JSON. -/
def jsonScalar : Value → String
  | .null => "null"
  | .boolean value => toString value
  | .integer value => toString value
  | .float value => Decimal.compact value
  | .string value => jsonString value
  | .array _ | .object _ => ""

mutual

/-- The value on one line. -/
def toJson : Value → String
  | .array items => "[" ++ ",".intercalate (itemsToJson items) ++ "]"
  | .object entries => "\x7b" ++ ",".intercalate (entriesToJson entries) ++ "\x7d"
  | value => jsonScalar value

def itemsToJson : List Value → List String
  | [] => []
  | item :: rest => item.toJson :: itemsToJson rest

def entriesToJson : List (String × Value) → List String
  | [] => []
  | (key, value) :: rest => (jsonString key ++ ":" ++ value.toJson) :: entriesToJson rest

end

/-- The lines of a bracketed list, each on its own line at the indentation. -/
def bracketed (opening closing : String) (indent : Nat) (lines : List String) : String :=
  match lines with
  | [] => opening ++ closing
  | lines =>
    let inner := "\n" ++ String.ofList (List.replicate (indent + 2) ' ')
    let outer := "\n" ++ String.ofList (List.replicate indent ' ')
    opening ++ inner ++ ("," ++ inner).intercalate lines ++ outer ++ closing

mutual

/-- The value over several lines; `indent` is the indentation of the line on which it
starts. -/
def toIndentedJson (indent : Nat) : Value → String
  | .array items => bracketed "[" "]" indent (indentedItems (indent + 2) items)
  | .object entries => bracketed "\x7b" "\x7d" indent (indentedEntries (indent + 2) entries)
  | value => jsonScalar value

def indentedItems (indent : Nat) : List Value → List String
  | [] => []
  | item :: rest => item.toIndentedJson indent :: indentedItems indent rest

def indentedEntries (indent : Nat) : List (String × Value) → List String
  | [] => []
  | (key, value) :: rest =>
    (jsonString key ++ ": " ++ value.toIndentedJson indent) :: indentedEntries indent rest

end

end ErrorLint.Value
