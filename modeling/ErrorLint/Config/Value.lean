/-
This file holds the values that options are made of, and what is said about a value
of the wrong kind.
-/

import ErrorLint.Decimal.Shortest
import ErrorLint.Text.Quoted

namespace ErrorLint

/-- A value without a fixed type. -/
inductive Value where
  | null
  | boolean (value : Bool)
  | integer (value : Int)
  | float (value : Float)
  | string (value : String)
  | array (items : List Value)
  | object (entries : List (String × Value))
  deriving Inhabited

/-- What was found where something else was wanted. A number is known by its text. -/
inductive Found where
  | null
  | boolean (value : Bool)
  | integer (value : Int)
  | float (text : String)
  | string (value : String)
  | sequence
  | map
  deriving Repr, DecidableEq

/-- How a finding is named in a message. -/
def Found.describe : Found → String
  | .null => "null"
  | .boolean value => "boolean `" ++ toString value ++ "`"
  | .integer value => "integer `" ++ toString value ++ "`"
  | .float text => "floating point `" ++ text ++ "`"
  | .string value => "string " ++ Text.quoted value
  | .sequence => "sequence"
  | .map => "map"

namespace Value

/-- What a value is, for a message. -/
def found : Value → Found
  | .null => .null
  | .boolean value => .boolean value
  | .integer value => .integer value
  | .float value => .float (Decimal.compact value)
  | .string value => .string value
  | .array _ => .sequence
  | .object _ => .map

def isObject : Value → Bool
  | .object _ => true
  | _ => false

mutual

/-- Whether two values are the same. Numbers are compared as numbers of their kind. -/
def same : Value → Value → Bool
  | .null, .null => true
  | .boolean left, .boolean right => left = right
  | .integer left, .integer right => left = right
  | .float left, .float right => left == right
  | .string left, .string right => left = right
  | .array left, .array right => sameItems left right
  | .object left, .object right => sameEntries left right
  | _, _ => false

/-- Whether two lists of values are the same. -/
def sameItems : List Value → List Value → Bool
  | [], [] => true
  | left :: lefts, right :: rights => same left right && sameItems lefts rights
  | _, _ => false

/-- Whether two lists of entries are the same. -/
def sameEntries : List (String × Value) → List (String × Value) → Bool
  | [], [] => true
  | (key, left) :: lefts, (other, right) :: rights =>
    key = other && same left right && sameEntries lefts rights
  | _, _ => false

end

end Value

end ErrorLint
