/-
This file holds the values of a TOML document. The entries of a table stand in the
order of the document.
-/

import ErrorLint.Toml.DateTime

namespace ErrorLint

/-- A value of a TOML document. -/
inductive TomlValue where
  | string (value : String)
  | integer (value : Int64)
  | float (value : Float)
  | boolean (value : Bool)
  | dateTime (value : Toml.DateTime)
  | array (items : List TomlValue)
  | table (entries : List (String × TomlValue))
  deriving Inhabited

namespace TomlValue

def isTable : TomlValue → Bool
  | .table _ => true
  | _ => false

/-- The entries of a table; anything else has none. -/
def entries : TomlValue → List (String × TomlValue)
  | .table entries => entries
  | _ => []

/-- Whether the value can be written under headings of its own: a table, or an array
of nothing but tables. -/
def hasHeading : TomlValue → Bool
  | .table _ => true
  | .array items => !items.isEmpty && items.all isTable
  | _ => false

end TomlValue

end ErrorLint
