/-
This file reads numbers. Single underscores may stand between digits. Integers have
sixty-four bits with their sign, are decimal, or hexadecimal, octal or binary without a
sign, and a decimal one has no zero before its other digits. A number with a fraction or
an exponent is a floating-point number; one that is too large is refused.
-/

import ErrorLint.Decimal.Nearest
import ErrorLint.Decimal.Shortest
import ErrorLint.Toml.Quoted

namespace ErrorLint.Toml

/-- Reads the digits that follow a digit. -/
def moreDigits (isDigit : Char → Bool) : Reader (List Char)
  | '_' :: char :: rest =>
    if isDigit char then do
      let (digits, rest) ← moreDigits isDigit rest
      return (char :: digits, rest)
    else
      none
  | char :: rest =>
    if isDigit char then do
      let (digits, rest) ← moreDigits isDigit rest
      return (char :: digits, rest)
    else if char = '_' then
      none
    else
      some ([], char :: rest)
  | [] => some ([], [])

/-- Reads one or more digits. -/
def someDigits (isDigit : Char → Bool) : Reader (List Char)
  | char :: rest =>
    if isDigit char then do
      let (digits, rest) ← moreDigits isDigit rest
      return (char :: digits, rest)
    else
      none
  | [] => none

/-- Whether there is a minus sign, and what follows the sign if there is one. -/
def sign : List Char → Bool × List Char
  | '-' :: rest => (true, rest)
  | '+' :: rest => (false, rest)
  | text => (false, text)

/-- Reads the digits of a decimal integer: a zero, or digits that begin with another
one. -/
def wholeDigits : Reader (List Char)
  | '0' :: rest => some (['0'], rest)
  | text => someDigits Char.isDigit text

/-- The integers of sixty-four bits. -/
def isWord (number : Int) : Bool :=
  -0x8000000000000000 ≤ number && number < 0x8000000000000000

/-- The number that digits of a base stand for. -/
def numberOf (base : Nat) (digits : List Char) : Nat :=
  digits.foldl (fun number digit =>
    number * base + (StringStyle.hexValue? digit).getD 0) 0

/-- Whether a character is a digit of a base up to sixteen. -/
def isDigitOf (base : Nat) (char : Char) : Bool :=
  (StringStyle.hexValue? char).any (· < base)

/-- Reads the digits of an integer of another base. -/
def basedInteger (base : Nat) : Reader Int := fun text => do
  let (digits, rest) ← someDigits (isDigitOf base) text
  let number : Int := numberOf base digits
  if isWord number then some (number, rest) else none

/-- Reads an integer. -/
def readInteger : Reader Int
  | '0' :: 'x' :: rest => basedInteger 16 rest
  | '0' :: 'o' :: rest => basedInteger 8 rest
  | '0' :: 'b' :: rest => basedInteger 2 rest
  | text => do
    let (negative, text) := sign text
    let (digits, rest) ← wholeDigits text
    let number : Int := digitsValue digits
    let number := if negative then -number else number
    if isWord number then some (number, rest) else none

/-- Writes an integer. -/
def writeInteger (number : Int) : List Char :=
  if number < 0 then '-' :: Nat.toDigits 10 number.natAbs else Nat.toDigits 10 number.natAbs

/-- Reads the fraction after a point, if there is one. -/
def readFraction : Reader (Option (List Char))
  | '.' :: rest => do
    let (digits, rest) ← someDigits Char.isDigit rest
    return (some digits, rest)
  | text => some (none, text)

/-- Reads an exponent, if there is one. -/
def readExponent : Reader (Option Int) := fun text =>
  match text with
  | 'e' :: rest | 'E' :: rest => do
    let (negative, rest) := sign rest
    let (digits, rest) ← someDigits Char.isDigit rest
    let power : Int := digitsValue digits
    return (some (if negative then -power else power), rest)
  | text => some (none, text)

/-- Reads a number with a fraction or an exponent, which must not be too large. A
number that is too small below zero is minus infinity. -/
def readDecimal : Reader Float := fun text => do
  let (negative, text) := sign text
  let (whole, text) ← wholeDigits text
  let (fraction, text) ← readFraction text
  let (exponent, text) ← readExponent text
  guard (fraction.isSome || exponent.isSome)
  let fraction := fraction.getD []
  let magnitude :=
    Decimal.nearest (digitsValue (whole ++ fraction)) (exponent.getD 0 - fraction.length)
  guard (negative || magnitude.isFinite)
  return (if negative then -magnitude else magnitude, text)

/-- Reads the name of an infinite or undefined number. -/
def readSpecial : Reader Float := fun text =>
  let (negative, text) := sign text
  match text with
  | 'i' :: 'n' :: 'f' :: rest => some (if negative then -1.0 / 0.0 else 1.0 / 0.0, rest)
  | 'n' :: 'a' :: 'n' :: rest => some (0.0 / 0.0, rest)
  | _ => none

/-- Reads a floating-point number. -/
def readFloat : Reader Float := fun text => readDecimal text <|> readSpecial text

/-- Writes a floating-point number without an exponent. -/
def writeFloat (number : Float) : List Char :=
  if number.isNaN then ['n', 'a', 'n']
  else if number.isInf then (if number < 0.0 then ['-', 'i', 'n', 'f'] else ['i', 'n', 'f'])
  else (Decimal.plain number).toList

end ErrorLint.Toml
