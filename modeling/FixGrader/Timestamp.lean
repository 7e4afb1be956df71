import FixGrader.Text.Property
import FixGrader.Number.Power
/-!
# Points in time

A time stamp is a day of the Gregorian calendar and a time of that day, both in universal time. It
is written as `2024-01-02T03:04:05.678Z`, with no, three, six or nine digits of the second's
fraction, and read with some freedom: one-digit numbers, blanks between the parts and any offset
from universal time.
-/
namespace FixGrader

/-- A day, counted from the first of January 1970; a second of that day; and a fraction of that
second in nanoseconds, which is a whole second longer during a leap second. -/
structure Timestamp where
  day : Int
  second : Nat
  nano : Nat
  deriving DecidableEq, Repr, Inhabited

namespace Timestamp

def isLeapYear (y : Int) : Bool := y % 4 = 0 && (y % 100 != 0 || y % 400 = 0)

def daysInMonth (y : Int) (m : Nat) : Nat :=
  if m = 2 then (if isLeapYear y then 29 else 28)
  else if m = 4 ∨ m = 6 ∨ m = 9 ∨ m = 11 then 30 else 31

/-- The number of a day. Years are counted from March, so that a leap day ends its year, in eras of
four hundred years. -/
def dayNumber (y : Int) (m d : Nat) : Int :=
  let y := if m ≤ 2 then y - 1 else y
  let era := y / 400
  let yearOfEra := y - era * 400
  let dayOfYear : Int := (153 * ((m + 9) % 12 : Nat) + 2) / 5 + d - 1
  let dayOfEra := yearOfEra * 365 + yearOfEra / 4 - yearOfEra / 100 + dayOfYear
  era * 146097 + dayOfEra - 719468

/-- The year, month and day of a day's number. -/
def civil (day : Int) : Int × Nat × Nat :=
  let z := day + 719468
  let era := z / 146097
  let dayOfEra := z - era * 146097
  let yearOfEra := (dayOfEra - dayOfEra / 1460 + dayOfEra / 36524 - dayOfEra / 146096) / 365
  let dayOfYear := dayOfEra - (365 * yearOfEra + yearOfEra / 4 - yearOfEra / 100)
  let m := (5 * dayOfYear + 2) / 153
  let d := dayOfYear - (153 * m + 2) / 5 + 1
  let month := if m < 10 then m + 3 else m - 9
  let y := yearOfEra + era * 400 + (if month ≤ 2 then 1 else 0)
  (y, month.toNat, d.toNat)

/-- A number with leading zeros up to a width. -/
def padded (width n : Nat) : String :=
  let s := toString n
  String.ofList (List.replicate (width - s.length) '0') ++ s

def yearText (y : Int) : String :=
  if 0 ≤ y ∧ y ≤ 9999 then padded 4 y.toNat
  else (if y < 0 then "-" else "+") ++ padded 4 y.natAbs

def fractionText (nano : Nat) : String :=
  if nano = 0 then ""
  else if nano % 1000000 = 0 then "." ++ padded 3 (nano / 1000000)
  else if nano % 1000 = 0 then "." ++ padded 6 (nano / 1000)
  else "." ++ padded 9 nano

/-- The text with the fraction of the second written in a way of its own. -/
def textWith (fraction : Nat → String) (t : Timestamp) : String :=
  let (y, m, d) := civil t.day
  let (second, nano) :=
    if 1000000000 ≤ t.nano then (t.second % 60 + 1, t.nano - 1000000000)
    else (t.second % 60, t.nano)
  yearText y ++ "-" ++ padded 2 m ++ "-" ++ padded 2 d ++ "T" ++
    padded 2 (t.second / 3600) ++ ":" ++ padded 2 (t.second / 60 % 60) ++ ":" ++
    padded 2 second ++ fraction nano ++ "Z"

def text (t : Timestamp) : String := t.textWith fractionText

/-- The text with six digits of the second's fraction. -/
def microText (t : Timestamp) : String := t.textWith fun nano => "." ++ padded 6 (nano / 1000)

def skipBlank (cs : List Char) : List Char := cs.dropWhile Text.isBlank

def digitsValue (cs : List Char) : Nat := cs.foldl (fun n c => n * 10 + (c.toNat - '0'.toNat)) 0

/-- Splits off a number of at least one and at most `width` digits, after blanks. -/
def number? (width : Nat) (cs : List Char) : Option (Nat × List Char) :=
  let cs := skipBlank cs
  let digits := (cs.take width).takeWhile Text.isAsciiDigit
  if digits.isEmpty then none else some (digitsValue digits, cs.drop digits.length)

/-- Splits off a year: up to four digits, or a sign and any number of digits. -/
def year? (cs : List Char) : Option (Int × List Char) :=
  match skipBlank cs with
  | '-' :: cs => if Text.isAsciiDigit (cs.headD ' ') then
      (number? cs.length cs).map fun (n, cs) => (-(n : Int), cs) else none
  | '+' :: cs => if Text.isAsciiDigit (cs.headD ' ') then
      (number? cs.length cs).map fun (n, cs) => ((n : Int), cs) else none
  | cs => (number? 4 cs).map fun (n, cs) => ((n : Int), cs)

/-- Splits off a character after blanks. -/
def mark? (c : Char) (cs : List Char) : Option (List Char) :=
  match skipBlank cs with
  | d :: cs => if c = d then some cs else none
  | [] => none

/-- Splits off a fraction of a second, in nanoseconds; digits after the ninth do not count. -/
def fraction? (cs : List Char) : Option (Nat × List Char) :=
  match cs with
  | '.' :: cs =>
    let digits := cs.takeWhile Text.isAsciiDigit
    let kept := digits.take 9
    if digits.isEmpty then none
    else some (digitsValue kept * 10 ^ (9 - kept.length), cs.drop digits.length)
  | _ => some (0, cs)

/-- Splits off an offset from universal time, in seconds. -/
def offset? (cs : List Char) : Option (Int × List Char) :=
  let signed (negative : Bool) (cs : List Char) : Option (Int × List Char) :=
    match cs with
    | h1 :: h2 :: cs =>
      if Text.isAsciiDigit h1 && Text.isAsciiDigit h2 then
        match cs.dropWhile fun c => c = ':' || Text.isBlank c with
        | m1 :: m2 :: cs =>
          if Text.isAsciiDigit m1 && Text.isAsciiDigit m2 && m1 < '6' then
            let seconds : Int := digitsValue [h1, h2] * 3600 + digitsValue [m1, m2] * 60
            some (if negative then -seconds else seconds, cs)
          else none
        | _ => none
      else none
    | _ => none
  match skipBlank cs with
  | 'Z' :: cs | 'z' :: cs => some (0, cs)
  | '+' :: cs => signed false cs
  | '-' :: cs | '−' :: cs => signed true cs
  | u :: t :: c :: cs =>
    if (u = 'u' ∨ u = 'U') ∧ (t = 't' ∨ t = 'T') ∧ (c = 'c' ∨ c = 'C') then some (0, cs) else none
  | _ => none

/-- The years that a time stamp can be in. -/
def yearInRange (y : Int) : Bool := -262143 ≤ y && y ≤ 262142

/-- Reads a time stamp. -/
def ofText? (s : String) : Option Timestamp := do
  let (y, cs) ← year? s.toList
  let cs ← mark? '-' cs
  let (m, cs) ← number? 2 cs
  let cs ← mark? '-' cs
  let (d, cs) ← number? 2 cs
  let cs ← match cs with
    | c :: cs => if c = 't' ∨ c = 'T' ∨ c = ' ' then some cs else none
    | [] => none
  let (hour, cs) ← number? 2 cs
  let cs ← mark? ':' cs
  let (minute, cs) ← number? 2 cs
  let cs ← mark? ':' cs
  let (second, cs) ← number? 2 cs
  let (nano, cs) ← fraction? cs
  let (offset, cs) ← offset? cs
  guard (skipBlank cs).isEmpty
  guard (yearInRange y && 1 ≤ m && m ≤ 12 && 1 ≤ d && d ≤ daysInMonth y m)
  guard (hour < 24 && minute < 60 && second ≤ 60)
  guard (-86400 < offset && offset < 86400)
  let (second, nano) := if second = 60 then (59, nano + 1000000000) else (second, nano)
  let total : Int := dayNumber y m d * 86400 + (hour * 3600 + minute * 60 + second : Nat) - offset
  let day := total / 86400
  guard (yearInRange (civil day).1)
  return ⟨day, (total % 86400).toNat, nano⟩

end Timestamp

end FixGrader
