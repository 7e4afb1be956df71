import FixGrader.Host.Script
import FixGrader.Number.Power
/-!
# Arithmetic in scripts

Integer expressions with the usual operators, from the loosest to the tightest. Comparisons give
one or zero; a name stands for its value.
-/
namespace FixGrader.Host.Arithmetic

/-- The operators, one list for each level of binding. -/
def levels : List (List (List Char)) := [
  [['|', '|']], [['&', '&']], [['=', '='], ['!', '=']],
  [['<', '='], ['>', '='], ['<'], ['>']], [['+'], ['-']], [['*'], ['/'], ['%']]]

def ofBool (b : Bool) : Int := if b then 1 else 0

/-- Why an expression has no value. -/
inductive Error where
  | malformed
  | divisionByZero
  deriving DecidableEq, Repr, Inhabited

/-- Brings a number into the range of 64 bits with a sign. -/
def wrap (n : Int) : Int := n.bmod (2 ^ (64 : Nat))

/-- The value of an operation. Quotients are rounded toward zero. -/
def apply (operator : List Char) (a b : Int) : Except Error Int :=
  match operator with
  | ['|', '|'] => .ok (ofBool (a != 0 || b != 0))
  | ['&', '&'] => .ok (ofBool (a != 0 && b != 0))
  | ['=', '='] => .ok (ofBool (a == b))
  | ['!', '='] => .ok (ofBool (a != b))
  | ['<', '='] => .ok (ofBool (a ≤ b))
  | ['>', '='] => .ok (ofBool (b ≤ a))
  | ['<'] => .ok (ofBool (a < b))
  | ['>'] => .ok (ofBool (b < a))
  | ['+'] => .ok (wrap (a + b))
  | ['-'] => .ok (wrap (a - b))
  | ['*'] => .ok (wrap (a * b))
  | ['/'] => if b = 0 then .error .divisionByZero else .ok (a.tdiv b)
  | ['%'] => if b = 0 then .error .divisionByZero else .ok (a.tmod b)
  | _ => .error .malformed

def skip (cs : List Char) : List Char := cs.dropWhile fun c => Script.isBlank c || c = '\n'

/-- The number that digits of a base stand for. -/
def ofDigits? (base : Nat) (cs : List Char) : Option Nat :=
  let value (c : Char) : Nat :=
    if c.isDigit then c.toNat - 48 else if c.isAlpha then c.toLower.toNat - 87 else 36
  if cs.isEmpty || cs.any (base ≤ value ·) then none
  else some (cs.foldl (fun n c => n * base + value c) 0)

/-- A number without a sign: hexadecimal behind `0x`, octal behind a zero, else decimal. -/
def natural? : List Char → Option Nat
  | '0' :: 'x' :: digits | '0' :: 'X' :: digits => ofDigits? 16 digits
  | '0' :: c :: digits => ofDigits? 8 (c :: digits)
  | digits => ofDigits? 10 digits

/-- The number that a text stands for; an empty text is zero. -/
def number? (cs : List Char) : Option Int :=
  match cs with
  | [] => some 0
  | '-' :: digits => (natural? digits).map fun n => -(n : Int)
  | digits => (natural? digits).map Int.ofNat

/-- The number that decimal digits with an optional sign stand for. -/
def decimal? (cs : List Char) : Option Int :=
  match cs with
  | '-' :: digits => (ofDigits? 10 digits).map fun n => -(n : Int)
  | '+' :: digits | digits => (ofDigits? 10 digits).map Int.ofNat

mutual

/-- An expression of the operators of the given levels. -/
def level (value : ByteText → Option Int) :
    Nat → List (List (List Char)) → List Char → Except Error (Int × List Char)
  | 0, _, _ => throw .malformed
  | fuel + 1, [], cs => atom value fuel cs
  | fuel + 1, operators :: tighter, cs => do
    let (first, rest) ← level value fuel tighter cs
    more value fuel operators tighter first rest

/-- Further operands of one level. -/
def more (value : ByteText → Option Int) : Nat → List (List Char) → List (List (List Char)) → Int →
    List Char → Except Error (Int × List Char)
  | 0, _, _, _, _ => throw .malformed
  | fuel + 1, operators, tighter, first, cs =>
    let cs := skip cs
    match operators.find? (·.isPrefixOf cs) with
    | none => return (first, cs)
    | some operator => do
      let (second, rest) ← level value fuel tighter (cs.drop operator.length)
      more value fuel operators tighter (← apply operator first second) rest

/-- A number, a name, a sign or a bracket. -/
def atom (value : ByteText → Option Int) : Nat → List Char → Except Error (Int × List Char)
  | 0, _ => throw .malformed
  | fuel + 1, cs =>
    match skip cs with
    | '(' :: rest => do
      let (v, rest) ← level value fuel levels rest
      match skip rest with
      | ')' :: rest => return (v, rest)
      | _ => throw .malformed
    | '-' :: rest => do
      let (v, rest) ← atom value fuel rest
      return (-v, rest)
    | '+' :: rest => atom value fuel rest
    | '!' :: rest => do
      let (v, rest) ← atom value fuel rest
      return (ofBool (v = 0), rest)
    | c :: rest =>
      let word := (c :: rest).takeWhile Script.isNameChar
      let found := if c.isDigit then (natural? word).map Int.ofNat
        else if Script.isNameStart c then value word
        else none
      match found with
      | some n => return (n, (c :: rest).drop word.length)
      | none => throw .malformed
    | [] => throw .malformed

end

/-- The value of an expression, given the values of names. -/
def evaluate (value : ByteText → Option Int) (cs : List Char) : Except Error Int := do
  let (v, rest) ← level value (16 * cs.length + 16) levels cs
  if (skip rest).isEmpty then return v else throw .malformed

end FixGrader.Host.Arithmetic
