/-
This file holds dates and times. A moment has a date, a time or both, and with both it
may have an offset from the universal time. Dates are those of the Gregorian calendar,
and a minute may have a leap second. Fractions of a second are cut after the ninth
place.
-/

import ErrorLint.Decimal.Power

namespace ErrorLint.Toml

/-- Reads a part of a text: what was read and what remains, or nothing. -/
abbrev Reader (α : Type) := List Char → Option (α × List Char)

/-- The number that decimal digits stand for. -/
def digitsValue (digits : List Char) : Nat :=
  digits.foldl (fun number digit => number * 10 + (digit.toNat - '0'.toNat)) 0

/-- Reads a number of exactly `count` decimal digits between two bounds. -/
def boundedNumber (count low high : Nat) : Reader Nat := fun text =>
  let digits := text.take count
  let number := digitsValue digits
  if digits.length = count && digits.all Char.isDigit && low ≤ number && number ≤ high then
    some (number, text.drop count)
  else
    none

/-- The number with zeros before it, to at least `width` digits. -/
def padded (width number : Nat) : List Char :=
  let digits := Nat.toDigits 10 number
  List.replicate (width - digits.length) '0' ++ digits

/-- Reads one character. -/
def expect (wanted : Char) : Reader Unit
  | first :: rest => if first = wanted then some ((), rest) else none
  | [] => none

/-- A day. -/
structure Date where
  year : Nat
  month : Nat
  day : Nat
  deriving Repr, DecidableEq

namespace Date

def isLeap (year : Nat) : Bool := year % 4 = 0 && (year % 100 ≠ 0 || year % 400 = 0)

/-- The number of days of a month. -/
def daysIn (year month : Nat) : Nat :=
  if month = 2 then (if isLeap year then 29 else 28)
  else if month = 4 || month = 6 || month = 9 || month = 11 then 30
  else 31

def text (date : Date) : List Char :=
  padded 4 date.year ++ '-' :: padded 2 date.month ++ '-' :: padded 2 date.day

def read : Reader Date := fun text => do
  let (year, text) ← boundedNumber 4 0 9999 text
  let (_, text) ← expect '-' text
  let (month, text) ← boundedNumber 2 1 12 text
  let (_, text) ← expect '-' text
  let (day, text) ← boundedNumber 2 1 (daysIn year month) text
  return (⟨year, month, day⟩, text)

end Date

/-- A time of the day. -/
structure Time where
  hour : Nat
  minute : Nat
  second : Nat
  nanosecond : Nat
  deriving Repr, DecidableEq

namespace Time

/-- The fraction of a second, without zeros at its end. -/
def fractionText (nanosecond : Nat) : List Char :=
  if nanosecond = 0 then []
  else '.' :: ((padded 9 nanosecond).reverse.dropWhile (· = '0')).reverse

def text (time : Time) : List Char :=
  padded 2 time.hour ++ ':' :: padded 2 time.minute ++ ':' :: padded 2 time.second ++
    fractionText time.nanosecond

/-- Reads a fraction of a second, if there is one. -/
def readFraction : Reader Nat := fun text =>
  match text with
  | '.' :: rest =>
    match rest.takeWhile Char.isDigit with
    | [] => none
    | digits =>
      let kept := digits.take 9
      some (digitsValue kept * Decimal.tenTo (9 - kept.length), rest.drop digits.length)
  | text => some (0, text)

def read : Reader Time := fun text => do
  let (hour, text) ← boundedNumber 2 0 23 text
  let (_, text) ← expect ':' text
  let (minute, text) ← boundedNumber 2 0 59 text
  let (_, text) ← expect ':' text
  let (second, text) ← boundedNumber 2 0 60 text
  let (nanosecond, text) ← readFraction text
  return (⟨hour, minute, second, nanosecond⟩, text)

end Time

/-- The offset of a local time from the universal time. -/
inductive TimeOffset where
  | universal
  | minutes (count : Int)
  deriving Repr, DecidableEq

namespace TimeOffset

def text : TimeOffset → List Char
  | universal => ['Z']
  | minutes count =>
    (if count < 0 then '-' else '+') ::
      padded 2 (count.natAbs / 60) ++ ':' :: padded 2 (count.natAbs % 60)

/-- Reads hours and minutes. -/
def readMinutes : Reader Nat := fun text => do
  let (hour, text) ← boundedNumber 2 0 23 text
  let (_, text) ← expect ':' text
  let (minute, text) ← boundedNumber 2 0 59 text
  return (hour * 60 + minute, text)

/-- Reads an offset, if there is one. -/
def read : Reader (Option TimeOffset) := fun text =>
  match text with
  | 'Z' :: rest | 'z' :: rest => some (some universal, rest)
  | '+' :: rest => do
    let (count, rest) ← readMinutes rest
    return (some (minutes count), rest)
  | '-' :: rest => do
    let (count, rest) ← readMinutes rest
    return (some (minutes (-count)), rest)
  | text => some (none, text)

end TimeOffset

/-- A moment, as far as it is given. -/
inductive DateTime where
  | day (date : Date)
  | clock (time : Time)
  | moment (date : Date) (time : Time) (offset : Option TimeOffset)
  deriving Repr, DecidableEq

namespace DateTime

def text : DateTime → List Char
  | day date => date.text
  | clock time => time.text
  | moment date time offset =>
    date.text ++ 'T' :: time.text ++ (offset.map TimeOffset.text).getD []

/-- Reads the time that follows a date. -/
def readAfterDate (date : Date) : Reader DateTime := fun text =>
  match text with
  | 'T' :: rest | 't' :: rest | ' ' :: rest => do
    let (time, rest) ← Time.read rest
    let (offset, rest) ← TimeOffset.read rest
    return (moment date time offset, rest)
  | _ => none

/-- Reads a moment. What follows a date belongs to it only if it is a time. -/
def read : Reader DateTime := fun text =>
  match Date.read text with
  | some (date, rest) => readAfterDate date rest <|> some (day date, rest)
  | none => (Time.read text).map fun (time, rest) => (clock time, rest)

end DateTime

end ErrorLint.Toml
