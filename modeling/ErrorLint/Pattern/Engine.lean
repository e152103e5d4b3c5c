/-
This file says what rules ask of patterns. An engine makes a test of texts out of a
pattern, or tells what is wrong with it. How patterns are written, and what they say
about a text, is left to the engine.
-/

namespace ErrorLint

/-- What makes tests out of patterns. -/
structure PatternEngine where
  /-- The test that a pattern is, or what is wrong with it. -/
  compile : String → Except String (String → Bool)

end ErrorLint
