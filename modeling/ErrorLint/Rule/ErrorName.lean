/-
This file holds what the names of error classes tell. The language has eight error
classes of its own, and every class whose name ends in the word is meant as one.
-/

namespace ErrorLint.ErrorName

/-- The error classes of the language itself. -/
def builtins : List String := [
  "Error", "TypeError", "RangeError", "SyntaxError", "ReferenceError", "EvalError",
  "URIError", "AggregateError"]

def isBuiltin (name : String) : Bool := builtins.contains name

/-- Whether a name ends like the name of an error class. -/
def isErrorType (name : String) : Bool := "Error".toList.isSuffixOf name.toList

theorem isBuiltin_iff {name : String} : isBuiltin name = true ↔ name ∈ builtins :=
  List.contains_iff_mem

theorem isErrorType_iff {name : String} :
    isErrorType name = true ↔ "Error".toList <:+ name.toList :=
  List.isSuffixOf_iff_suffix

end ErrorLint.ErrorName
