/-
This file writes floating-point numbers in decimal. The digits are the fewest that
read back as the same number, and among those the nearest to it. They are found by
exact arithmetic: a double is an integer times a power of two, the reals that round
to it form an interval, and for each count of digits the two neighbours of the
number on that decimal grid are tested. Where the point stands and when an exponent
is written is a matter of the layout, which is kept apart.
-/

import ErrorLint.Decimal.Power

namespace ErrorLint.Decimal

/-- A positive double: `mantissa` times two to the power `exponent`. -/
structure Binary where
  mantissa : Nat
  exponent : Int
  /-- Whether the next smaller double is only half as far away as the next larger one. -/
  closerBelow : Bool

/-- The positive double that the magnitude bits stand for. -/
def Binary.ofBits (bits : Nat) : Binary :=
  let fraction : Nat := bits % twoTo 52
  let biased : Nat := bits / twoTo 52 % twoTo 11
  if biased = 0 then ⟨fraction, -1074, false⟩
  else ⟨twoTo 52 + fraction, (biased : Int) - 1075, fraction = 0 && 1 < biased⟩

/-- A positive decimal: `digits` times ten to the power `exponent`. -/
structure Digits where
  digits : Nat
  exponent : Int
  deriving Repr, DecidableEq

/-- The number of decimal digits of a positive number. -/
def digitCount (number : Nat) : Nat := (Nat.toDigits 10 number).length

/-- Ten to the power `scale`, as a numerator and a denominator. -/
def scaleRatio (scale : Int) : Nat × Nat := (tenTo scale.toNat, tenTo (-scale).toNat)

/-- The power of ten of the leading digit. -/
def leadingExponent (number : Binary) : Int :=
  let scaled :=
    number.mantissa * twoTo number.exponent.toNat * tenTo 400 /
      twoTo (-number.exponent).toNat
  (digitCount scaled : Int) - 401

/-- The neighbour of the number on the grid of multiples of ten to the power
`-scale` that lies in the interval of the reals that round to it. If both do, the
nearer one is taken, and the lower one if they are equally near. -/
def onGrid? (number : Binary) (scale : Int) : Option Nat :=
  let (numerator, denominator) := scaleRatio scale
  -- Everything is measured in quarters of the last binary place.
  let up := twoTo (number.exponent - 2).toNat * numerator
  let unit := twoTo (2 - number.exponent).toNat * denominator
  let value := 4 * number.mantissa * up
  let low := (4 * number.mantissa - (if number.closerBelow then 1 else 2)) * up
  let high := (4 * number.mantissa + 2) * up
  let closed := number.mantissa % 2 = 0
  let inside (candidate : Nat) : Bool :=
    if closed then low ≤ candidate * unit && candidate * unit ≤ high
    else low < candidate * unit && candidate * unit < high
  let below := value / unit
  match inside below, inside (below + 1) with
  | true, true =>
    if value - below * unit ≤ (below + 1) * unit - value then some below else some (below + 1)
  | true, false => some below
  | false, true => some (below + 1)
  | false, false => none

/-- Drops the zeros at the end of the digits; `fuel` bounds their number. -/
def dropZeros : (fuel : Nat) → Digits → Digits
  | 0, number => number
  | fuel + 1, number =>
    if number.digits % 10 = 0 then dropZeros fuel ⟨number.digits / 10, number.exponent + 1⟩
    else number

/-- The first count of digits, from `count` on, for which the grid has a hit. -/
def search (number : Binary) (leading : Int) : (fuel count : Nat) → Digits
  | 0, _ => ⟨0, 0⟩
  | fuel + 1, count =>
    let scale := (count : Int) - 1 - leading
    match onGrid? number scale with
    | some digits => dropZeros 20 ⟨digits, -scale⟩
    | none => search number leading fuel (count + 1)

/-- The fewest digits that read back as the number. Seventeen always suffice. -/
def shortest (number : Binary) : Digits :=
  search number (leadingExponent number) 17 1

/-! ### Layouts -/

/-- The digits with a point and without an exponent, and with at least one digit on
either side of the point. -/
def Digits.positional (number : Digits) : String :=
  let digits := Nat.toDigits 10 number.digits
  if 0 ≤ number.exponent then
    String.ofList (digits ++ List.replicate number.exponent.toNat '0' ++ ['.', '0'])
  else
    let places := (-number.exponent).toNat
    if places < digits.length then
      String.ofList (digits.take (digits.length - places) ++ ['.'] ++
        digits.drop (digits.length - places))
    else
      String.ofList (['0', '.'] ++ List.replicate (places - digits.length) '0' ++ digits)

/-- The digits with the point after the first one, and a signed power of ten. -/
def Digits.scientific (number : Digits) : String :=
  let digits := Nat.toDigits 10 number.digits
  let power := number.exponent + digits.length - 1
  let fraction := if digits.length = 1 then [] else '.' :: digits.drop 1
  let sign := if power < 0 then "-" else "+"
  String.ofList (digits.take 1 ++ fraction) ++ "e" ++ sign ++ toString power.natAbs

/-- The power of ten of the first digit. -/
def Digits.power (number : Digits) : Int :=
  number.exponent + digitCount number.digits - 1

/-- Writes a number that is neither infinite nor undefined by a layout of its digits. -/
def write (layout : Digits → String) (number : Float) : String :=
  let bits := number.toBits.toNat
  let sign := if bits / twoTo 63 = 1 then "-" else ""
  let magnitude := bits % twoTo 63
  if magnitude = 0 then sign ++ "0.0"
  else sign ++ layout (shortest (Binary.ofBits magnitude))

/-- The text of a number without an exponent, however large or small it is. -/
def plain (number : Float) : String :=
  write Digits.positional number

/-- The text of a number with an exponent where the first digit lies below the fifth
decimal place or above the sixteenth place of the integers. -/
def compact (number : Float) : String :=
  write (fun digits =>
    if -5 ≤ digits.power && digits.power ≤ 15 then digits.positional else digits.scientific) number

end ErrorLint.Decimal
