/-
This file reads decimal numbers as doubles. The double is the one nearest to the
decimal, and of two equally near ones the one with the even mantissa. The quotient is
rounded once, by exact arithmetic.
-/

import ErrorLint.Decimal.Power

namespace ErrorLint.Decimal

/-- The quotient of two numbers, rounded to the nearest integer, and to the even one if
there are two. -/
def roundedQuotient (numerator denominator : Nat) : Nat :=
  let quotient := numerator / denominator
  let twice := 2 * (numerator % denominator)
  if twice < denominator || (twice = denominator && quotient % 2 = 0) then quotient
  else quotient + 1

/-- The quotient over a power of two, as a numerator and a denominator. -/
def overTwoTo (exponent : Int) (numerator denominator : Nat) : Nat × Nat :=
  (numerator * twoTo (-exponent).toNat, denominator * twoTo exponent.toNat)

/-- The exponent of the last binary place of the double nearest to a positive quotient.
The mantissa has fifty-three places, unless the number is too small for that. -/
def lastPlace (numerator denominator : Nat) : Int :=
  let guess : Int := (numerator.log2 : Int) - denominator.log2 - 52
  let (upper, lower) := overTwoTo guess numerator denominator
  max (-1074) (if upper / lower < twoTo 52 then guess - 1 else guess)

/-- The bits of the double nearest to a positive quotient. Whatever lies beyond the
largest double is infinite. -/
def nearestBits (numerator denominator : Nat) : Nat :=
  let place := lastPlace numerator denominator
  let (upper, lower) := overTwoTo place numerator denominator
  let infinity : Nat := 0x7FF * twoTo 52
  min infinity ((place + 1074).toNat * twoTo 52 + roundedQuotient upper lower)

/-- The double nearest to the digits times a power of ten. Powers that no double
reaches are not computed. -/
def nearest (digits : Nat) (exponent : Int) : Float :=
  let magnitude := exponent + (Nat.toDigits 10 digits).length
  if digits = 0 || magnitude < -400 then 0.0
  else if 400 < magnitude then 1.0 / 0.0
  else Float.ofBits (UInt64.ofNat
    (nearestBits (digits * tenTo exponent.toNat) (tenTo (-exponent).toNat)))

end ErrorLint.Decimal
