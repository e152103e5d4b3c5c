/-
This file holds mappings between code points that move whole runs by one amount, as
the mappings between capital and small letters mostly do.
-/

namespace ErrorLint.Unicode

/-- A run of code points: those from `first` to `last` at a distance of `stride`, each
of which is mapped to the code point `amount` after it. -/
structure Shift where
  first : Nat
  last : Nat
  stride : Nat
  amount : Int
  deriving Repr, DecidableEq

namespace Shift

/-- Whether the run has a code point. -/
def holds (shift : Shift) (code : Nat) : Bool :=
  shift.first ≤ code && code ≤ shift.last && (code - shift.first) % shift.stride = 0

/-- The image of a code point. -/
def apply (shift : Shift) (code : Nat) : Nat := (code + shift.amount).toNat

/-- The code points of the run. -/
def codes (shift : Shift) : List Nat :=
  (List.range ((shift.last - shift.first) / shift.stride + 1)).map fun index =>
    shift.first + shift.stride * index

end Shift

/-- The image of a code point under a list of runs. Outside of all runs nothing moves. -/
def shiftBy (shifts : List Shift) (code : Nat) : Nat :=
  match shifts.find? (·.holds code) with
  | some shift => shift.apply code
  | none => code

end ErrorLint.Unicode
