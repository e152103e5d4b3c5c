/-
This file says how a value of the wrong kind is refused, and reads plain values: truth
values, strings, counts, and names from a fixed list.
-/

import ErrorLint.Config.Value

namespace ErrorLint

/-- Why a value was refused. -/
inductive Mismatch where
  | unknownField (name : String) (known : List String)
  | unknownVariant (name : String) (known : List String)
  | invalidType (found : Found) (wanted : String)
  | invalidValue (found : Found) (wanted : String)
  | invalidLength (length : Nat) (wanted : String)
  /-- Something that cannot name one of several variants. -/
  | noVariant
  deriving Repr, DecidableEq

namespace Mismatch

/-- The names that would have been accepted. -/
def alternatives : List String → String
  | [] => "nothing"
  | [name] => "`" ++ name ++ "`"
  | [first, second] => "`" ++ first ++ "` or `" ++ second ++ "`"
  | names => "one of " ++ ", ".intercalate (names.map fun name => "`" ++ name ++ "`")

def message : Mismatch → String
  | unknownField name known => "unknown field `" ++ name ++ "`, expected " ++ alternatives known
  | unknownVariant name known =>
    "unknown variant `" ++ name ++ "`, expected " ++ alternatives known
  | invalidType found wanted => "invalid type: " ++ found.describe ++ ", expected " ++ wanted
  | invalidValue found wanted => "invalid value: " ++ found.describe ++ ", expected " ++ wanted
  | invalidLength length wanted =>
    "invalid length " ++ toString length ++ ", expected " ++ wanted
  | noVariant => "wanted string or table"

/-- The variant of a name. -/
def chooseVariant {α : Type} (name : α → String) (variants : List α) (text : String) :
    Except Mismatch α :=
  match variants.find? (name · = text) with
  | some variant => .ok variant
  | none => .error (.unknownVariant text (variants.map name))

end Mismatch

namespace Value

/-! ### Plain values -/

def readBoolean : Value → Except Mismatch Bool
  | .boolean value => .ok value
  | value => .error (.invalidType value.found "a boolean")

def readString : Value → Except Mismatch String
  | .string value => .ok value
  | value => .error (.invalidType value.found "a string")

def readStrings : Value → Except Mismatch (List String)
  | .array items => items.mapM readString
  | value => .error (.invalidType value.found "a sequence")

/-- Reads a count, which must not be negative. -/
def readCount : Value → Except Mismatch Nat
  | .integer value =>
    if value < 0 then .error (.invalidValue (.integer value) "usize") else .ok value.toNat
  | value => .error (.invalidType value.found "usize")

/-- Reads one of several names, written as a string or as an object with that one key
and nothing behind it. -/
def readVariant {α : Type} (name : α → String) (variants : List α) :
    Value → Except Mismatch α
  | .string text => Mismatch.chooseVariant name variants text
  | .object [(key, payload)] => do
    let variant ← Mismatch.chooseVariant name variants key
    match payload with
    | .null => return variant
    | value => .error (.invalidType value.found "unit")
  | .object _ => .error (.invalidValue .map "map with a single key")
  | value => .error (.invalidType value.found "string or map")

end Value

end ErrorLint
