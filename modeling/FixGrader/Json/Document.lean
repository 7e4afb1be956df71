import FixGrader.Json.Value
import FixGrader.Text.Property
/-!
# Reading JSON text

A text is read into a document first, which keeps every member of every object, also a repeated
one, and only notes where a part is well formed but stands for no value: a number too large for a
double, or an escape that is half of a surrogate pair. A part that nobody asks for may be such a
part; a value is made of a document only where one is wanted.
-/
namespace FixGrader

/-- Where a text stops to be what was expected. -/
structure Json.Error where
  line : Nat
  column : Nat
  deriving DecidableEq, Repr, Inhabited

namespace Json

def Error.message (e : Error) : String :=
  s!"unexpected input at line {e.line} column {e.column}"

inductive Document where
  | null
  | bool (value : Bool)
  /-- `none` for a number that is too large for a double. -/
  | number (value : Option Number)
  /-- `none` for an unpaired surrogate among the escapes. -/
  | string (value : Option String)
  | array (items : List Document)
  | object (members : List (Option String × Document))
  deriving Repr, Inhabited

namespace Document

def maxNatural : Nat := 2 ^ (64 : Nat) - 1

/-- Whether `n * 10 + d` is beyond the largest natural number. -/
def overflows (n d : Nat) : Bool := decide (maxNatural < n * 10 + d)

def digitValue (c : Char) : Nat := c.toNat - '0'.toNat

/-- Adds decimal digits to a significand until it is full. The second number counts the digits
that were taken; the third one the digits that were left out. -/
def takeDigits (n : Nat) : List Char → Nat × Nat × List Char
  | [] => (n, 0, [])
  | c :: cs =>
    if overflows n (digitValue c) then (n, 0, c :: cs)
    else
      let (m, taken, rest) := takeDigits (n * 10 + digitValue c) cs
      (m, taken + 1, rest)

/-- Divides by `10 ^ 308` while the exponent is below the range of doubles. -/
def scaleDown : Nat → Double → Int → Double × Int
  | 0, d, e => (d, e)
  | fuel + 1, d, e =>
    if e < -308 ∧ d ≠ Double.zero then
      scaleDown fuel (d.div (Double.ofNat (10 ^ (308 : Nat)))) (e + 308)
    else (d, e)

/-- `significand · 10 ^ exponent` as a double: the significand is rounded first, then the product
or quotient with the power of ten; `none` when that is too large. -/
def scaled? (negative : Bool) (significand : Nat) (exponent : Int) : Option Double :=
  let (d, e) := scaleDown 4 (Double.ofNat significand) exponent
  let signed (d : Double) : Double := if negative then d.neg else d
  if d = Double.zero then some (signed d)
  else if 308 < e then none
  else if 0 ≤ e then
    match d.mul (Double.ofNat (10 ^ e.toNat)) with
    | .infinite _ => none
    | product => some (signed product)
  else if e < -308 then some (signed Double.zero)
  else some (signed (d.div (Double.ofNat (10 ^ (-e).toNat))))

/-- The largest exponent that is read digit by digit. -/
def maxExponentPart : Nat := 2 ^ (31 : Nat) - 1

/-- The value of a number, given by its sign, its digits before and after the point and its
exponent. Integers that fit are kept; minus zero and everything else is a double. -/
def numberValue (negative : Bool) (whole : List Char) (fraction : Option (List Char))
    (exponent : Option (Bool × List Char)) : Option Number :=
  let (n, _, dropped) := takeDigits 0 whole
  match fraction, exponent, dropped with
  | none, none, [] =>
    if negative then
      if n = 0 ∨ 2 ^ (63 : Nat) < n then some (.real (Double.ofNat n).neg) else some (.int (-n))
    else some (.int n)
  | _, _, _ =>
    let (m, taken, _) := takeDigits n (fraction.getD [])
    let base : Int := dropped.length - taken
    match exponent with
    | none => (scaled? negative m base).map .real
    | some (down, digits) =>
      let e := digits.foldl (fun e c => e * 10 + digitValue c) 0
      if maxExponentPart < e then
        if m ≠ 0 ∧ ¬ down then none
        else some (.real (Double.signedZero negative))
      else (scaled? negative m (if down then base - e else base + e)).map .real

/-- Splits off the digits after a point, if there is one. -/
def splitFraction : List Char → Option (List Char) × List Char
  | '.' :: cs => (some (cs.takeWhile Text.isAsciiDigit), cs.dropWhile Text.isAsciiDigit)
  | cs => (none, cs)

/-- Splits off a sign, and tells whether it is a minus. -/
def splitSign : List Char → Bool × List Char
  | '+' :: cs => (false, cs)
  | '-' :: cs => (true, cs)
  | cs => (false, cs)

/-- Splits off the sign and the digits of an exponent, if there is one. -/
def splitExponent : List Char → Option (Bool × List Char) × List Char
  | [] => (none, [])
  | c :: cs =>
    if c = 'e' ∨ c = 'E' then
      let (down, cs) := splitSign cs
      (some (down, cs.takeWhile Text.isAsciiDigit), cs.dropWhile Text.isAsciiDigit)
    else (none, c :: cs)

/-- Splits off a number, whose sign has been read. -/
def readNumber? (negative : Bool) (cs : List Char) : Option (Option Number × List Char) :=
  let whole := cs.takeWhile Text.isAsciiDigit
  let (fraction, rest) := splitFraction (cs.dropWhile Text.isAsciiDigit)
  let (exponent, rest) := splitExponent rest
  if whole.isEmpty ∨ (whole.head? = some '0' ∧ 1 < whole.length) ∨ fraction = some [] ∨
      exponent.map (·.2) = some [] then none
  else some (numberValue negative whole fraction exponent, rest)

def hexValue? (c : Char) : Option Nat :=
  if '0' ≤ c ∧ c ≤ '9' then some (c.toNat - '0'.toNat)
  else if 'a' ≤ c ∧ c ≤ 'f' then some (c.toNat - 'a'.toNat + 10)
  else if 'A' ≤ c ∧ c ≤ 'F' then some (c.toNat - 'A'.toNat + 10)
  else none

def fourHex? (a b c d : Char) : Option Nat := do
  return (((← hexValue? a) * 16 + (← hexValue? b)) * 16 + (← hexValue? c)) * 16 + (← hexValue? d)

def isLeading (n : Nat) : Bool := 0xd800 ≤ n && n ≤ 0xdbff

def isTrailing (n : Nat) : Bool := 0xdc00 ≤ n && n ≤ 0xdfff

def simpleEscape? (c : Char) : Option Char :=
  match c with
  | '"' => some '"'
  | '\\' => some '\\'
  | '/' => some '/'
  | 'b' => some '\x08'
  | 'f' => some '\x0c'
  | 'n' => some '\n'
  | 'r' => some '\r'
  | 't' => some '\t'
  | _ => none

/-- The character after the escape of a leading surrogate, when it escapes a trailing one. -/
def trailing? : List Char → Option Nat
  | '\\' :: 'u' :: a :: b :: c :: d :: _ => (fourHex? a b c d).filter isTrailing
  | _ => none

/-- Splits off the rest of a string, up to and with its closing quote. `text` holds the characters
so far, last first, and `none` from the first unpaired surrogate on; `lead` is a leading surrogate
whose partner comes next. -/
def readString? (text : Option (List Char)) (lead : Option Nat) :
    List Char → Option (Option String × List Char)
  | [] => none
  | '"' :: cs => some (text.map fun t => String.ofList t.reverse, cs)
  | '\\' :: 'u' :: a :: b :: c :: d :: cs =>
    match fourHex? a b c d with
    | none => none
    | some n =>
      match lead with
      | some l =>
        let joined := Char.ofNat (0x10000 + (l - 0xd800) * 0x400 + (n - 0xdc00))
        readString? (text.map (joined :: ·)) none cs
      | none =>
        if isLeading n then
          match trailing? cs with
          | some _ => readString? text (some n) cs
          | none => readString? none none cs
        else if isTrailing n then readString? none none cs
        else readString? (text.map (Char.ofNat n :: ·)) none cs
  | '\\' :: c :: cs =>
    match simpleEscape? c with
    | none => none
    | some e => readString? (text.map (e :: ·)) none cs
  | c :: cs =>
    if c.toNat < 0x20 ∨ c = '\\' then none else readString? (text.map (c :: ·)) none cs

def isGap (c : Char) : Bool := c = ' ' || c = '\t' || c = '\n' || c = '\r'

def skipGap (cs : List Char) : List Char := cs.dropWhile isGap

def word? (w : String) (cs : List Char) : Option (List Char) :=
  if w.toList.isPrefixOf cs then some (cs.drop w.length) else none

mutual

/-- Splits off a value. An error is what is left of the text where it occurs. -/
def readValue : Nat → List Char → Except (List Char) (Document × List Char)
  | 0, cs => .error cs
  | fuel + 1, cs =>
    let cs := skipGap cs
    let orError {α : Type} (o : Option α) : Except (List Char) α :=
      match o with
      | some a => .ok a
      | none => .error cs
    match cs with
    | [] => .error cs
    | '[' :: rest =>
      match skipGap rest with
      | ']' :: rest => .ok (.array [], rest)
      | rest => do
        let (items, rest) ← readItems fuel rest
        return (.array items, rest)
    | '\x7b' :: rest =>
      match skipGap rest with
      | '\x7d' :: rest => .ok (.object [], rest)
      | rest => do
        let (members, rest) ← readMembers fuel rest
        return (.object members, rest)
    | '"' :: rest => do
      let (s, rest) ← orError (readString? (some []) none rest)
      return (.string s, rest)
    | '-' :: rest => do
      let (n, rest) ← orError (readNumber? true rest)
      return (.number n, rest)
    | 't' :: _ => do return (.bool true, ← orError (word? "true" cs))
    | 'f' :: _ => do return (.bool false, ← orError (word? "false" cs))
    | 'n' :: _ => do return (.null, ← orError (word? "null" cs))
    | _ => do
      let (n, rest) ← orError (readNumber? false cs)
      return (.number n, rest)

/-- Splits off the items of an array, at least one, with the closing bracket. -/
def readItems : Nat → List Char → Except (List Char) (List Document × List Char)
  | 0, cs => .error cs
  | fuel + 1, cs => do
    let (item, rest) ← readValue fuel cs
    match skipGap rest with
    | ',' :: rest => do
      let (items, rest) ← readItems fuel rest
      return (item :: items, rest)
    | ']' :: rest => return ([item], rest)
    | rest => .error rest

/-- Splits off the members of an object, at least one, with the closing brace. -/
def readMembers : Nat → List Char → Except (List Char) (List (Option String × Document) × List Char)
  | 0, cs => .error cs
  | fuel + 1, cs => do
    match skipGap cs with
    | '"' :: rest =>
      match readString? (some []) none rest with
      | none => .error rest
      | some (key, rest) =>
        match skipGap rest with
        | ':' :: rest => do
          let (value, rest) ← readValue fuel rest
          match skipGap rest with
          | ',' :: rest => do
            let (members, rest) ← readMembers fuel rest
            return ((key, value) :: members, rest)
          | '\x7d' :: rest => return ([(key, value)], rest)
          | rest => .error rest
        | rest => .error rest
    | rest => .error rest

end

/-- The position after the first `n` characters of a text. -/
def position (cs : List Char) (n : Nat) : Error :=
  (cs.take n).foldl
    (fun e c => if c = '\n' then ⟨e.line + 1, 0⟩ else ⟨e.line, e.column + 1⟩) ⟨1, 0⟩

/-- Reads a text that is one value and nothing else. -/
def ofText (s : String) : Except Error Document :=
  let cs := s.toList
  let errorAt (rest : List Char) : Error := position cs (cs.length - rest.length)
  match readValue (2 * cs.length + 2) cs with
  | .error rest => .error (errorAt rest)
  | .ok (document, rest) =>
    match skipGap rest with
    | [] => .ok document
    | rest => .error (errorAt rest)

end Document

end Json

end FixGrader
