/-
This file renders messages. A message is a template in which names in doubled
braces stand for values; the values belong to a finding and are kept sorted by
name. Rendering goes through the template once from left to right, so a value
that itself looks like a placeholder is left alone.
-/

import ErrorLint.Text.Blank
import ErrorLint.Text.Search

namespace ErrorLint

/-- A value that a message can show. -/
inductive Datum where
  | text (value : String)
  | count (value : Nat)
  deriving Repr, DecidableEq

/-- The text that a value shows. -/
def Datum.render : Datum → String
  | .text value => value
  | .count value => toString value

/-- The values of one message, sorted by name. -/
structure MessageData where
  entries : List (String × Datum)
  deriving Repr, DecidableEq

namespace MessageData

/-- No values. -/
def empty : MessageData := ⟨[]⟩

def isEmpty (data : MessageData) : Bool := data.entries.isEmpty

/-- Puts a value into a sorted list, in place of an older value of the name. -/
def insertSorted (name : String) (value : Datum) :
    List (String × Datum) → List (String × Datum)
  | [] => [(name, value)]
  | (other, datum) :: rest =>
    if name < other then (name, value) :: (other, datum) :: rest
    else if name = other then (name, value) :: rest
    else (other, datum) :: insertSorted name value rest

/-- Sets the value of a name. -/
def insert (data : MessageData) (name : String) (value : Datum) : MessageData :=
  ⟨insertSorted name value data.entries⟩

/-- The value of a name. -/
def get? (data : MessageData) (name : String) : Option Datum :=
  data.entries.lookup name

/-- The value of a name, if it is a text. -/
def text? (data : MessageData) (name : String) : Option String :=
  match data.get? name with
  | some (.text value) => some value
  | _ => none

/-- The value of a name, if it is a count. -/
def count? (data : MessageData) (name : String) : Option Nat :=
  match data.get? name with
  | some (.count value) => some value
  | _ => none

/-- The mark that opens a placeholder. -/
def opening : List Char := ['\x7b', '\x7b']

/-- The mark that closes a placeholder. -/
def closing : List Char := ['\x7d', '\x7d']

/-- What a placeholder shows. The name may stand between blanks, and a name
without a value leaves the placeholder as it is written. -/
def placeholder (data : MessageData) (inner : List Char) : List Char :=
  match data.get? (String.ofList (Text.trim inner)) with
  | some value => value.render.toList
  | none => opening ++ inner ++ closing

/-- Replaces the placeholders of a template from left to right. -/
def interpolateChars (data : MessageData) (template : List Char) : List Char :=
  match _ : Text.splitFirst? opening template with
  | none => template
  | some (before, rest) =>
    match _ : Text.splitFirst? closing rest with
    | none => template
    | some (inner, after) => before ++ data.placeholder inner ++ data.interpolateChars after
termination_by template.length
decreasing_by
  rename_i opened closed
  have first := Text.length_after_le_of_splitFirst? opened
  have second := Text.length_after_le_of_splitFirst? closed
  have marks : opening.length = 2 := rfl
  omega

/-- The message of a template. -/
def interpolate (data : MessageData) (template : String) : String :=
  String.ofList (data.interpolateChars template.toList)

end MessageData

end ErrorLint
