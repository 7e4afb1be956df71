import FixGrader.Number.Double
/-!
# The shortest decimal text of a double

Of all decimals that read back as a given double, its text has the fewest digits, and of those the
decimal nearest to the double. Between `1e-5` and `1e16` the digits are written positionally, with
at least one place after the point; outside of that range with a signed exponent.
-/
namespace FixGrader

namespace Double

/-- A positive decimal `digits · 10 ^ exponent`. -/
structure Decimal where
  digits : Nat
  exponent : Int
  deriving DecidableEq, Repr

/-- The reals that round to `m · 2 ^ e`, in units of `2 ^ (e - 2)`: the bounds, and whether the
bounds themselves belong to them. -/
structure Neighbourhood where
  low : Nat
  high : Nat
  closed : Bool

def neighbourhood (m : Nat) (e : Int) : Neighbourhood where
  low := if m = 2 ^ (52 : Nat) ∧ minExponent < e then 4 * m - 1 else 4 * m - 2
  high := 4 * m + 2
  closed := m % 2 == 0

/-- `x / unit` as numerator and denominator, where `x` counts quarter units of the last place of
`2 ^ e` and `unit = 10 ^ k`. -/
def onGrid (e k : Int) (x : Nat) : Nat × Nat :=
  let (n, d) := scaleBy x 1 (2 - e)
  if 0 ≤ k then (n, d * 10 ^ k.toNat) else (n * 10 ^ (-k).toNat, d)

/-- The multiple of `10 ^ k` nearest to `m · 2 ^ e` among its two neighbours on that grid, if one
of them reads back as `m · 2 ^ e`. -/
def gridPoint? (m : Nat) (e k : Int) : Option Nat :=
  let near := neighbourhood m e
  let (n, d) := onGrid e k (4 * m)
  let (l, _) := onGrid e k near.low
  let (h, _) := onGrid e k near.high
  let inside (c : Nat) : Bool :=
    if near.closed then decide (l ≤ c * d) && decide (c * d ≤ h)
    else decide (l < c * d) && decide (c * d < h)
  let below := n / d
  let above := below + 1
  match inside below, inside above with
  | true, true =>
    let r := n % d
    if 2 * r < d then some below
    else if d < 2 * r then some above
    else if below % 2 = 0 then some below else some above
  | true, false => some below
  | false, true => some above
  | false, false => none

/-- Tries the grids `10 ^ k`, `10 ^ (k - 1)`, … in turn, the coarsest first. -/
def coarsestGrid (m : Nat) (e : Int) : Nat → Int → Decimal
  | 0, k => ⟨((onGrid e k (4 * m)).1 / (onGrid e k (4 * m)).2), k⟩
  | fuel + 1, k =>
    match gridPoint? m e k with
    | some c => if c = 0 then coarsestGrid m e fuel (k - 1) else ⟨c, k⟩
    | none => coarsestGrid m e fuel (k - 1)

/-- An upper bound of the decimal exponent of `m · 2 ^ e`, at most two above it. -/
def decimalExponentBound (m : Nat) (e : Int) : Int :=
  ((m.log2 : Int) + e) * 30103 / 100000 + 2

/-- The shortest decimal that reads back as the positive double `m · 2 ^ e`. Seventeen digits are
always enough. -/
def shortest (m : Nat) (e : Int) : Decimal :=
  coarsestGrid m e 24 (decimalExponentBound m e)

/-- Writes a positive decimal, positionally where its exponent allows. -/
def Decimal.text (d : Decimal) : String :=
  let s := toString d.digits
  let point : Int := s.length + d.exponent
  let zeros (n : Int) : String := String.ofList (List.replicate n.toNat '0')
  if 0 ≤ d.exponent ∧ point ≤ 16 then s ++ zeros d.exponent ++ ".0"
  else if 0 < point ∧ point ≤ 16 then
    String.ofList (s.toList.take point.toNat) ++ "." ++ String.ofList (s.toList.drop point.toNat)
  else if -5 < point ∧ point ≤ 0 then "0." ++ zeros (-point) ++ s
  else
    let e := point - 1
    let exponent := (if e < 0 then "e-" else "e+") ++ toString e.natAbs
    match s.toList with
    | [] => exponent
    | [c] => c.toString ++ exponent
    | c :: rest => c.toString ++ "." ++ String.ofList rest ++ exponent

/-- The text of a double. -/
def text : Double → String
  | .nan => "NaN"
  | .infinite s => if s then "-inf" else "inf"
  | .finite s m e =>
    let magnitude := if m = 0 then "0.0" else (shortest m e).text
    if s then "-" ++ magnitude else magnitude

end Double

end FixGrader
