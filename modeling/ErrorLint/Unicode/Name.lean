/-
This file compares the names of properties and of their values. Letter case, spaces,
hyphens and underscores do not matter in a name, nor does a leading "is".
-/

import ErrorLint.Unicode.CharSet

namespace ErrorLint.Unicode

/-- The form of a name in which names are compared. -/
def normalizeName (name : List Char) : List Char :=
  let lowered := name.map Char.toLower
  let bare := if lowered.take 2 = ['i', 's'] then lowered.drop 2 else lowered
  let kept := bare.filter fun char =>
    char.toNat < 0x80 && char ≠ ' ' && char ≠ '_' && char ≠ '-'
  if lowered.take 2 = ['i', 's'] && kept = ['c'] then ['i', 's', 'c'] else kept

/-- Whether one of the names is the normalized name. -/
def isNamed (normalized : List Char) (names : List String) : Bool :=
  names.any fun name => normalizeName name.toList = normalized

/-- A set of characters with the names that it goes by. -/
structure NamedSet where
  names : List String
  set : CharSet
  deriving Repr, DecidableEq

/-- The set of a normalized name. -/
def findNamed? (sets : List NamedSet) (normalized : List Char) : Option CharSet :=
  (sets.find? fun named => isNamed normalized named.names).map (·.set)

end ErrorLint.Unicode
