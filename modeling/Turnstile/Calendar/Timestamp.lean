import Turnstile.Calendar.Date
import Turnstile.Text.Blank
import Turnstile.Text.Numeral

/-!
# Timestamps

Points in time with nanoseconds, written as a date, a time and the letter `Z`.
Reading takes any offset from Universal Time, and allows blanks between the
parts and numbers without leading zeros.  A leap second belongs to the second
before it and is written as second 60.
-/

namespace Turnstile
namespace Calendar

open Text

/-- A day, a second of that day, and the nanoseconds since that second began;
the latter exceed a second during a leap second. -/
structure Timestamp where
  day : Int
  second : Nat
  nanos : Nat
deriving DecidableEq, Repr

namespace Timestamp

/-- The first second of 1970. -/
def epoch : Timestamp where
  day := 0
  second := 0
  nanos := 0

/-- The timestamp of a number of seconds and nanoseconds since the epoch. -/
def ofEpoch (seconds : Int) (nanos : Nat) : Timestamp where
  day := seconds / 86400
  second := (seconds % 86400).toNat
  nanos := nanos

/-- The years that a timestamp can lie in. -/
def inRange (year : Int) : Bool :=
  -262143 ≤ year && year ≤ 262142

/-! ## Printing -/

/-- A decimal numeral of at least the given number of digits. -/
def padded (digits number : Nat) : List Char :=
  let written := decimal number
  List.replicate (digits - written.length) '0' ++ written

/-- A year of four digits, with its sign where it needs more or is negative. -/
def printYear (year : Int) : List Char :=
  if 0 ≤ year ∧ year ≤ 9999 then padded 4 year.toNat
  else (if year < 0 then '-' else '+') :: padded 4 year.natAbs

/-- A fraction of a second in the fewest of 0, 3, 6 or 9 digits. -/
def printFraction (nanos : Nat) : List Char :=
  if nanos = 0 then []
  else if nanos % 1000000 = 0 then '.' :: padded 3 (nanos / 1000000)
  else if nanos % 1000 = 0 then '.' :: padded 6 (nanos / 1000)
  else '.' :: padded 9 nanos

/-- The written form of a timestamp. -/
def print (timestamp : Timestamp) : List Char :=
  let date := Date.ofNumber timestamp.day
  let leap := timestamp.nanos / 1000000000
  printYear date.year ++ ['-'] ++ padded 2 date.month ++ ['-']
    ++ padded 2 date.day ++ ['T']
    ++ padded 2 (timestamp.second / 3600) ++ [':']
    ++ padded 2 (timestamp.second / 60 % 60) ++ [':']
    ++ padded 2 (timestamp.second % 60 + leap)
    ++ printFraction (timestamp.nanos % 1000000000) ++ ['Z']

/-! ## Reading -/

/-- Reads one or more digits, up to a limit if there is one. -/
def readDigits?
    (limit : Option Nat)
    (text : List Char) : Option (List Char × List Char) :=
  let run := text.takeWhile fun char => (digit? 10 char).isSome
  let taken :=
    match limit with
    | some limit => run.take limit
    | none => run
  if taken.isEmpty then none else some (taken, text.drop taken.length)

/-- Reads a number of at most two digits after blanks. -/
def readPair? (text : List Char) : Option (Nat × List Char) := do
  let (digits, rest) ← readDigits? (some 2) (trimStart text)
  return (← readNumeral? 10 digits, rest)

/-- Reads a year after blanks: up to four digits, or any number of them after a
sign. -/
def readYear? (text : List Char) : Option (Int × List Char) :=
  match trimStart text with
  | '-' :: rest => do
      let (digits, rest) ← readDigits? none rest
      return (-(← readNumeral? 10 digits : Nat), rest)
  | '+' :: rest => do
      let (digits, rest) ← readDigits? none rest
      return ((← readNumeral? 10 digits : Nat), rest)
  | text => do
      let (digits, rest) ← readDigits? (some 4) text
      return ((← readNumeral? 10 digits : Nat), rest)

/-- Reads a mark after blanks. -/
def readMark? (mark : Char) (text : List Char) : Option (List Char) :=
  match trimStart text with
  | char :: rest => if char = mark then some rest else none
  | [] => none

/-- Reads a fraction of a second, of which nine digits count. -/
def readFraction? : List Char → Option (Nat × List Char)
  | '.' :: rest => do
      let (digits, rest) ← readDigits? none rest
      let counted := digits.take 9
      let value ← readNumeral? 10 counted
      return (value * Nat.pow 10 (9 - counted.length), rest)
  | text => some (0, text)

/-- Reads exactly two digits. -/
def readTwoDigits? : List Char → Option (Nat × List Char)
  | first :: second :: rest => do
      let value ← readNumeral? 10 [first, second]
      return (value, rest)
  | _ => none

/-- Reads an offset from Universal Time in seconds. -/
def readOffset? (text : List Char) : Option (Int × List Char) :=
  match text with
  | [] => none
  | sign :: rest =>
      if sign = 'Z' || sign = 'z' then some (0, rest)
      else if ((text.take 3).map Char.toUpper) = "UTC".toList then
        some (0, text.drop 3)
      else if sign = '+' || sign = '-' || sign = '\u2212' then do
        let (hours, rest) ← readTwoDigits? rest
        let rest := rest.dropWhile fun char => char = ':' || isBlank char
        let (minutes, rest) ← readTwoDigits? rest
        if 59 < minutes then none
        else
          let offset : Int := (hours * 3600 + minutes * 60 : Nat)
          return (if sign = '+' then offset else -offset, rest)
      else none

/-- The timestamp of a local date and time of day at an offset, if the date
exists and both days lie in range. -/
def ofLocal?
    (date : Date)
    (hour minute second nanos : Nat)
    (offset : Int) : Option Timestamp :=
  if date.isValid && inRange date.year && hour < 24 && minute < 60
      && second ≤ 60 && offset.natAbs < 86400 then
    let leap := if second = 60 then 1 else 0
    let localSecond : Int := (hour * 3600 + minute * 60 + (second - leap) : Nat)
    let universal := localSecond - offset
    let day := date.number + universal / 86400
    if inRange (Date.ofNumber day).year then
      some { day, second := (universal % 86400).toNat,
             nanos := nanos + leap * 1000000000 }
    else none
  else none

/-- Reads a timestamp. -/
def read? (text : List Char) : Option Timestamp := do
  let (year, rest) ← readYear? text
  let rest ← readMark? '-' rest
  let (month, rest) ← readPair? rest
  let rest ← readMark? '-' rest
  let (day, rest) ← readPair? rest
  let rest ←
    match rest with
    | 'T' :: rest => some rest
    | 't' :: rest => some rest
    | ' ' :: rest => some rest
    | _ => none
  let (hour, rest) ← readPair? rest
  let rest ← readMark? ':' rest
  let (minute, rest) ← readPair? rest
  let rest ← readMark? ':' rest
  let (second, rest) ← readPair? rest
  let (nanos, rest) ← readFraction? rest
  let (offset, rest) ← readOffset? (trimStart rest)
  if (trimStart rest).isEmpty then
    ofLocal? { year, month, day } hour minute second nanos offset
  else none

end Timestamp
end Calendar
end Turnstile
