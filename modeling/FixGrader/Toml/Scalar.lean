import FixGrader.Json.Document
import FixGrader.Timestamp
/-!
# Strings, numbers and dates

The values of a TOML document that hold no other ones. A reader takes the beginning of a text and
gives what it read with the rest of the text, or `none`.
-/
namespace FixGrader.Toml

open Json (Document)

/-- Whether a line ends here, with what comes after it. -/
def newline? : List Char → Option (List Char)
  | '\n' :: rest => some rest
  | '\r' :: '\n' :: rest => some rest
  | _ => none

def isBlank (c : Char) : Bool := c = ' ' || c = '\t'

def skipBlanks (cs : List Char) : List Char := cs.dropWhile isBlank

/-- Whether a character may stand as it is in a comment or a text: no control character is. -/
def isPlain (c : Char) : Bool := c = '\t' || (0x20 ≤ c.toNat && c.toNat != 0x7f)

/-- The character whose number is given by a fixed count of hexadecimal digits. -/
def codePoint? (count : Nat) (cs : List Char) : Option (Char × List Char) := do
  let digits ← (cs.take count).mapM Json.Document.hexValue?
  let n := digits.foldl (fun n d => 16 * n + d) 0
  guard (digits.length = count ∧ n.isValidChar)
  return (Char.ofNat n, cs.drop count)

/-- What stands behind a backslash. -/
def escape? : List Char → Option (Char × List Char)
  | 'b' :: rest => some ('\x08', rest)
  | 't' :: rest => some ('\t', rest)
  | 'n' :: rest => some ('\n', rest)
  | 'f' :: rest => some ('\x0c', rest)
  | 'r' :: rest => some ('\r', rest)
  | '"' :: rest => some ('"', rest)
  | '\\' :: rest => some ('\\', rest)
  | 'u' :: rest => codePoint? 4 rest
  | 'U' :: rest => codePoint? 8 rest
  | _ => none

/-- The rest of a string with escapes on one line. -/
def basicRest? : Nat → List Char → Option (List Char × List Char)
  | 0, _ => none
  | fuel + 1, cs =>
    match cs with
    | '"' :: rest => some ([], rest)
    | '\\' :: rest => do
      let (c, rest) ← escape? rest
      let (text, rest) ← basicRest? fuel rest
      return (c :: text, rest)
    | c :: rest => do
      guard (isPlain c)
      let (text, rest) ← basicRest? fuel rest
      return (c :: text, rest)
    | [] => none

/-- The rest of a string without escapes on one line. -/
def literalRest? : List Char → Option (List Char × List Char)
  | '\'' :: rest => some ([], rest)
  | c :: rest => do
    guard (isPlain c)
    let (text, rest) ← literalRest? rest
    return (c :: text, rest)
  | [] => none

/-- Skips blanks and line ends. -/
def skipLines : List Char → List Char
  | '\n' :: rest => skipLines rest
  | '\r' :: '\n' :: rest => skipLines rest
  | ' ' :: rest => skipLines rest
  | '\t' :: rest => skipLines rest
  | cs => cs

/-- A backslash at the end of a line: what comes after it, from the next visible character on. -/
def lineContinuation? (cs : List Char) : Option (List Char) :=
  (newline? (skipBlanks cs)).map skipLines

/-- How many quotes a text begins with. -/
def quoteRun (quote : Char) (cs : List Char) : Nat := (cs.takeWhile (· = quote)).length

/-- The rest of a string over several lines. It ends at three quotes; up to two more in front of
these belong to the text. -/
def blockRest? (quote : Char) (escapes : Bool) : Nat → List Char → Option (List Char × List Char)
  | 0, _ => none
  | fuel + 1, cs =>
    let run := quoteRun quote cs
    if 3 ≤ run then
      let inside := Nat.min (run - 3) 2
      some (List.replicate inside quote, cs.drop (inside + 3))
    else if 0 < run then do
      let (text, rest) ← blockRest? quote escapes fuel (cs.drop run)
      return (List.replicate run quote ++ text, rest)
    else
      match newline? cs with
      | some rest => do
        let (text, rest) ← blockRest? quote escapes fuel rest
        return ('\n' :: text, rest)
      | none =>
        match cs with
        | [] => none
        | c :: rest =>
          if c = '\\' ∧ escapes then
            match lineContinuation? rest with
            | some rest => blockRest? quote escapes fuel rest
            | none => do
              let (c, rest) ← escape? rest
              let (text, rest) ← blockRest? quote escapes fuel rest
              return (c :: text, rest)
          else do
            guard (isPlain c)
            let (text, rest) ← blockRest? quote escapes fuel rest
            return (c :: text, rest)

/-- A string on one line. -/
def lineString? : List Char → Option (String × List Char)
  | '"' :: rest => (basicRest? (rest.length + 1) rest).map fun (t, r) => (String.ofList t, r)
  | '\'' :: rest => (literalRest? rest).map fun (t, r) => (String.ofList t, r)
  | _ => none

/-- The beginning of a string over several lines: a line end right behind the quotes is dropped. -/
def blockString? (quote : Char) (escapes : Bool) (cs : List Char) : Option (String × List Char) :=
  let cs := (newline? cs).getD cs
  (blockRest? quote escapes (cs.length + 1) cs).map fun (t, r) => (String.ofList t, r)

def string? : List Char → Option (String × List Char)
  | '"' :: '"' :: '"' :: rest => blockString? '"' true rest
  | '\'' :: '\'' :: '\'' :: rest => blockString? '\'' false rest
  | cs => lineString? cs

def isDigit (c : Char) : Bool := '0' ≤ c && c ≤ '9'

/-- Digits of a base; single underscores may stand between them. -/
def digits? (isDigit : Char → Bool) : List Char → Option (List Char × List Char)
  | '_' :: _ => none
  | c :: rest => if isDigit c then some (more [c] rest) else none
  | [] => none
where
  /-- The digits after the first ones, which are given backwards. -/
  more (taken : List Char) : List Char → List Char × List Char
    | '_' :: c :: rest =>
      if isDigit c then more (c :: taken) rest else (taken.reverse, '_' :: c :: rest)
    | c :: rest => if isDigit c then more (c :: taken) rest else (taken.reverse, c :: rest)
    | [] => (taken.reverse, [])

def numberOf (base : Nat) (digits : List Char) : Nat :=
  digits.foldl (fun n c => base * n + (Json.Document.hexValue? c).getD 0) 0

/-- A sign, if there is one: whether it is a minus, and the rest. -/
def sign : List Char → Bool × List Char
  | '+' :: rest => (false, rest)
  | '-' :: rest => (true, rest)
  | cs => (false, cs)

/-- A decimal integer, which does not begin with a zero unless it is zero. -/
def decimal? : List Char → Option (List Char × List Char)
  | '0' :: rest => some (['0'], rest)
  | cs => digits? isDigit cs

/-- Integers reach from `-2 ^ 63` to `2 ^ 63 - 1`. -/
def integerOf? (i : Int) : Option Document :=
  if -2 ^ (63 : Nat) ≤ i ∧ i < 2 ^ (63 : Nat) then some (.number (some (.int i))) else none

def integer? (cs : List Char) : Option (Document × List Char) :=
  let based (base : Nat) (isDigit : Char → Bool) (cs : List Char) := do
    let (digits, rest) ← digits? isDigit cs
    return (← integerOf? (numberOf base digits), rest)
  match cs with
  | '0' :: 'x' :: rest => based 16 (fun c => (Json.Document.hexValue? c).isSome) rest
  | '0' :: 'o' :: rest => based 8 (fun c => '0' ≤ c && c ≤ '7') rest
  | '0' :: 'b' :: rest => based 2 (fun c => c = '0' || c = '1') rest
  | cs => do
    let (negative, cs) := sign cs
    let (digits, rest) ← decimal? cs
    let n : Int := numberOf 10 digits
    return (← integerOf? (if negative then -n else n), rest)

/-- The double nearest to `digits · 10 ^ exponent`. -/
def doubleOf (negative : Bool) (digits : Nat) (exponent : Int) : Double :=
  if digits = 0 then Double.signedZero negative
  else if 400 < exponent then .infinite negative
  else if 0 ≤ exponent then .ofRatio negative (digits * 10 ^ exponent.toNat) 1
  else if exponent < -400 - ((Nat.log2 digits : Nat) : Int) then Double.signedZero negative
  else .ofRatio negative digits (10 ^ (-exponent).toNat)

/-- The digits behind the point. -/
def fraction? : List Char → Option (List Char × List Char)
  | '.' :: rest => digits? isDigit rest
  | _ => none

def exponent? : List Char → Option (Int × List Char)
  | c :: rest =>
    if c = 'e' ∨ c = 'E' then do
      let (negative, rest) := sign rest
      let (digits, rest) ← digits? isDigit rest
      let n : Int := numberOf 10 digits
      return (if negative then -n else n, rest)
    else none
  | [] => none

/-- What is behind the whole part of a number: the digits of the fraction, and the exponent. -/
def fractionAndExponent? (cs : List Char) : Option (List Char × Int × List Char) :=
  match exponent? cs with
  | some (e, rest) => some ([], e, rest)
  | none => do
    let (part, cs) ← fraction? cs
    match exponent? cs with
    | some (e, rest) => some (part, e, rest)
    | none => some (part, 0, cs)

/-- A number with a fraction, an exponent or both; one that is too large is none. -/
def fractional? (cs : List Char) : Option (Document × List Char) := do
  let (negative, cs) := sign cs
  let (whole, cs) ← decimal? cs
  let (part, exponent, rest) ← fractionAndExponent? cs
  let value := doubleOf negative (numberOf 10 (whole ++ part)) (exponent - part.length)
  guard (value != .infinite false)
  return (.number (some (.real value)), rest)

def special? (cs : List Char) : Option (Document × List Char) :=
  match sign cs with
  | (negative, 'i' :: 'n' :: 'f' :: rest) =>
    some (.number (some (.real (.infinite negative))), rest)
  | (_, 'n' :: 'a' :: 'n' :: rest) => some (.number (some (.real .nan)), rest)
  | _ => none

/-- A number of so many digits. -/
def fixed? (width : Nat) (cs : List Char) : Option (Nat × List Char) :=
  let digits := cs.take width
  if digits.length = width ∧ digits.all isDigit then some (numberOf 10 digits, cs.drop width)
  else none

def mark? (c : Char) : List Char → Option (List Char)
  | d :: rest => if c = d then some rest else none
  | [] => none

def daysInMonth (year month : Nat) : Nat :=
  if month = 2 then (if year % 4 = 0 ∧ (year % 100 ≠ 0 ∨ year % 400 = 0) then 29 else 28)
  else if [4, 6, 9, 11].contains month then 30
  else 31

open Timestamp (padded)

def date? (cs : List Char) : Option (String × List Char) := do
  let (year, cs) ← fixed? 4 cs
  let cs ← mark? '-' cs
  let (month, cs) ← fixed? 2 cs
  let cs ← mark? '-' cs
  let (day, cs) ← fixed? 2 cs
  guard (1 ≤ month ∧ month ≤ 12 ∧ 1 ≤ day ∧ day ≤ daysInMonth year month)
  return (padded 4 year ++ "-" ++ padded 2 month ++ "-" ++ padded 2 day, cs)

/-- The text of a fraction of a second: nine digits at most, without zeros at the end. -/
def fractionText (digits : List Char) : String :=
  let kept := ((digits.take 9).reverse.dropWhile (· = '0')).reverse
  if kept.isEmpty then "" else "." ++ String.ofList kept

def time? (cs : List Char) : Option (String × List Char) := do
  let (hour, cs) ← fixed? 2 cs
  let cs ← mark? ':' cs
  let (minute, cs) ← fixed? 2 cs
  let cs ← mark? ':' cs
  let (second, cs) ← fixed? 2 cs
  guard (hour ≤ 23 ∧ minute ≤ 59 ∧ second ≤ 60)
  let text := padded 2 hour ++ ":" ++ padded 2 minute ++ ":" ++ padded 2 second
  match cs with
  | '.' :: c :: rest =>
    if isDigit c then
      return (text ++ fractionText (c :: rest.takeWhile isDigit), rest.dropWhile isDigit)
    else none
  | cs => return (text, cs)

/-- The distance from universal time; empty where none is given. -/
def offset (cs : List Char) : String × List Char :=
  match cs with
  | 'Z' :: rest | 'z' :: rest => ("Z", rest)
  | c :: rest =>
    let found : Option (String × List Char) := do
      guard (c = '+' ∨ c = '-')
      let (hour, rest) ← fixed? 2 rest
      let rest ← mark? ':' rest
      let (minute, rest) ← fixed? 2 rest
      guard (hour ≤ 23 ∧ minute ≤ 59)
      let shown := if hour = 0 ∧ minute = 0 then '+' else c
      return (shown.toString ++ padded 2 hour ++ ":" ++ padded 2 minute, rest)
    found.getD ("", cs)
  | [] => ("", [])

/-- A date, a time, or both. -/
def dateTimeText? (cs : List Char) : Option (String × List Char) :=
  match date? cs with
  | none => time? cs
  | some (date, rest) =>
    let timed : Option (String × List Char) := do
      match rest with
      | c :: rest =>
        guard (c = 'T' ∨ c = 't' ∨ c = ' ')
        let (time, rest) ← time? rest
        let (offset, rest) := offset rest
        return (date ++ "T" ++ time ++ offset, rest)
      | [] => none
    some (timed.getD (date, rest))

/-- A point in time stands as a table with one entry, under a key of its own. -/
def dateTime? (cs : List Char) : Option (Document × List Char) := do
  let (text, rest) ← dateTimeText? cs
  return (.object [(some "$__toml_private_datetime", .string (some text))], rest)

def word? (word : List Char) (d : Document) (cs : List Char) : Option (Document × List Char) :=
  if word.isPrefixOf cs then some (d, cs.drop word.length) else none

/-- A value that holds no other one. -/
def scalar? (cs : List Char) : Option (Document × List Char) :=
  match cs.head? with
  | some '"' | some '\'' => (string? cs).map fun (s, rest) => (.string (some s), rest)
  | some 't' => word? "true".toList (.bool true) cs
  | some 'f' => word? "false".toList (.bool false) cs
  | _ => (dateTime? cs).or ((fractional? cs).or ((special? cs).or (integer? cs)))

end FixGrader.Toml
