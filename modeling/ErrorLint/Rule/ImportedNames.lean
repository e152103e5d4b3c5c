/-
This file collects the local names that imports have introduced so far.
-/

import ErrorLint.Tree.Term

namespace ErrorLint

/-- The names introduced by imports. -/
structure ImportedNames where
  names : List String
  deriving Repr, DecidableEq

namespace ImportedNames

def empty : ImportedNames := ⟨[]⟩

/-- Takes in the names of an import; any other node adds nothing. -/
def record (imported : ImportedNames) (node : Node) : ImportedNames :=
  match node.form with
  | .importDeclaration bindings _ => ⟨imported.names ++ bindings.map (·.name)⟩
  | _ => imported

def contains (imported : ImportedNames) (name : String) : Bool := imported.names.contains name

end ImportedNames

end ErrorLint
