/-
This file looks up sets of characters by name: a name that stands alone is a yes-or-no
property, a general category or a script, and a name with a value is one of the
properties that have more than two values.
-/

import ErrorLint.Unicode.Age
import ErrorLint.Unicode.Break
import ErrorLint.Unicode.Script

namespace ErrorLint.Unicode.CharSet

/-- The set of a name that stands alone. -/
def ofName? (name : List Char) : Option CharSet :=
  let normalized := normalizeName name
  (propertyOf? normalized).or ((categoryOf? normalized).or (scriptOf? normalized))

/-- The set of a value of a property. -/
def ofValue? (property value : List Char) : Option CharSet :=
  let name := normalizeName property
  let normalized := normalizeName value
  if isNamed name ["General_Category", "gc"] then categoryOf? normalized
  else if isNamed name ["Script", "sc"] then scriptOf? normalized
  else if isNamed name ["Script_Extensions", "scx"] then usedWithScript? normalized
  else if isNamed name ["Age"] then presentIn? normalized
  else if isNamed name ["Grapheme_Cluster_Break", "GCB"] then findNamed? clusterClasses normalized
  else if isNamed name ["Word_Break", "WB"] then findNamed? wordClasses normalized
  else if isNamed name ["Sentence_Break", "SB"] then findNamed? sentenceClasses normalized
  else Option.none

end ErrorLint.Unicode.CharSet
