import FixGrader.Number.Power
/-!
# Binary floating-point numbers of 64 bits

Scores that come from outside, in a report or a call, are doubles. A finite double is kept as its
sign, a natural significand and a power of two, so that every operation is stated in exact integer
arithmetic and rounded once, to the nearest double with ties to the even significand.
-/
namespace FixGrader

/-- A double: not a number, an infinity, or `± significand · 2 ^ exponent`. Finite values are
written with the largest significand below `2 ^ 53` that the exponent range `-1074 … 971` allows. -/
inductive Double where
  | nan
  | infinite (negative : Bool)
  | finite (negative : Bool) (significand : Nat) (exponent : Int)
  deriving DecidableEq, Repr, Inhabited

namespace Double

/-- The exponent of the smallest positive double. -/
def minExponent : Int := -1074

/-- The exponent of the largest finite doubles. -/
def maxExponent : Int := 971

def signedZero (negative : Bool) : Double := .finite negative 0 minExponent

def zero : Double := signedZero false

/-- The quotient `n / d` rounded to an integer, a tie going to the even neighbour. -/
def roundQuotient (n d : Nat) : Nat :=
  let q := n / d
  let r := n % d
  if d < 2 * r ∨ (2 * r = d ∧ q % 2 = 1) then q + 1 else q

/-- `num / den` divided by `2 ^ e`, as numerator and denominator. -/
def scaleBy (num den : Nat) (e : Int) : Nat × Nat :=
  if 0 ≤ e then (num, den * 2 ^ e.toNat) else (num * 2 ^ (-e).toNat, den)

/-- The integer part of the binary logarithm of the positive quotient `num / den`. -/
def floorLog (num den : Nat) : Int :=
  let guess : Int := (num.log2 : Int) - den.log2
  let (n, d) := scaleBy num den guess
  if n < d then guess - 1 else guess

/-- The double nearest to `num / den`, with the given sign; beyond the largest double an
infinity. -/
def ofRatio (negative : Bool) (num den : Nat) : Double :=
  if num = 0 then signedZero negative
  else
    let e := max (floorLog num den - 52) minExponent
    let (n, d) := scaleBy num den e
    let significand := roundQuotient n d
    let (significand, e) :=
      if significand = 2 ^ (53 : Nat) then (2 ^ (52 : Nat), e + 1) else (significand, e)
    if maxExponent < e then .infinite negative else .finite negative significand e

/-- The double nearest to a count. -/
def ofNat (n : Nat) : Double := ofRatio false n 1

/-- The double nearest to an integer. -/
def ofInt (i : Int) : Double := ofRatio (decide (i < 0)) i.natAbs 1

/-- The double nearest to `h / 2`. -/
def ofHalves (h : Nat) : Double := ofRatio false h 2

def isNaN : Double → Bool
  | .nan => true
  | _ => false

def neg : Double → Double
  | .nan => .nan
  | .infinite s => .infinite !s
  | .finite s m e => .finite (!s) m e

/-- `± m · 2 ^ e` for an integer `m`, rounded; an exact zero takes the given sign. -/
def ofScaledInt (zeroNegative : Bool) (m : Int) (e : Int) : Double :=
  if m = 0 then signedZero zeroNegative
  else if 0 ≤ e then ofRatio (decide (m < 0)) (m.natAbs * 2 ^ e.toNat) 1
  else ofRatio (decide (m < 0)) m.natAbs (2 ^ (-e).toNat)

/-- The significand with its sign, at the power of two `base`, which is at most the exponent. -/
def alignedTo (base : Int) (negative : Bool) (m : Nat) (e : Int) : Int :=
  let k : Int := m * 2 ^ (e - base).toNat
  if negative then -k else k

def add : Double → Double → Double
  | .nan, _ | _, .nan => .nan
  | .infinite a, .infinite b => if a = b then .infinite a else .nan
  | .infinite a, .finite .. => .infinite a
  | .finite .., .infinite b => .infinite b
  | .finite s m e, .finite t n f =>
    let base := min e f
    ofScaledInt (s && t) (alignedTo base s m e + alignedTo base t n f) base

def sub (a b : Double) : Double := a.add b.neg

def mul : Double → Double → Double
  | .nan, _ | _, .nan => .nan
  | .infinite a, .infinite b => .infinite (a != b)
  | .infinite a, .finite t n _ => if n = 0 then .nan else .infinite (a != t)
  | .finite s m _, .infinite b => if m = 0 then .nan else .infinite (s != b)
  | .finite s m e, .finite t n f =>
    if m * n = 0 then signedZero (s != t)
    else ofScaledInt false (if s != t then -(m * n : Nat) else (m * n : Nat)) (e + f)

def div : Double → Double → Double
  | .nan, _ | _, .nan => .nan
  | .infinite _, .infinite _ => .nan
  | .infinite a, .finite t _ _ => .infinite (a != t)
  | .finite s _ _, .infinite b => signedZero (s != b)
  | .finite s m e, .finite t n f =>
    if n = 0 then (if m = 0 then .nan else .infinite (s != t))
    else
      let (num, den) := scaleBy m n (f - e)
      ofRatio (s != t) num den

/-- `a < b`, false when either is not a number. -/
def less : Double → Double → Bool
  | .nan, _ | _, .nan => false
  | .infinite a, .infinite b => a && !b
  | .infinite a, .finite .. => a
  | .finite .., .infinite b => !b
  | .finite s m e, .finite t n f =>
    let base := min e f
    decide (alignedTo base s m e < alignedTo base t n f)

/-- The larger of two doubles; a value that is not a number gives way to the other one. -/
def larger (a b : Double) : Double :=
  if a.isNaN then b else if a.less b then b else a

/-- Brings `a` into the interval from `lo` to `hi`; `none` unless `lo ≤ hi`. -/
def clamp? (a lo hi : Double) : Option Double :=
  if lo.isNaN || hi.isNaN || hi.less lo then none
  else
    let a := if a.less lo then lo else a
    some (if hi.less a then hi else a)

/-- The integer nearest to a double, a half going away from zero, brought into `0 … bound`.
What is not a number counts as zero. -/
def roundToNat (bound : Nat) : Double → Nat
  | .nan => 0
  | .infinite s => if s then 0 else bound
  | .finite s m e =>
    if s then 0
    else
      let (n, d) := scaleBy m 1 (-e)
      min bound ((2 * n + d) / (2 * d))

instance : Zero Double := ⟨zero⟩

end Double

end FixGrader
