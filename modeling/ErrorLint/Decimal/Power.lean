/-
This file holds the powers of two and of ten by which numbers are scaled.
-/

namespace ErrorLint.Decimal

/-- Two to a power. -/
def twoTo (power : Nat) : Nat := Nat.pow 2 power

/-- Ten to a power. -/
def tenTo (power : Nat) : Nat := Nat.pow 10 power

end ErrorLint.Decimal
