import FixGrader.Host.Script
/-!
# Patterns for names

The patterns of a shell: a star stands for any text, a question mark for any one character, and a
set in brackets for one of its characters.
-/
namespace FixGrader.Host

/-- A text in which some characters are marked as standing for themselves alone. -/
abbrev MarkedText := List (Char × Bool)

namespace Glob

inductive Item where
  | star
  | any
  /-- One of some ranges of characters, or none of them. -/
  | oneOf (negated : Bool) (ranges : List (Char × Char))
  | char (c : Char)
  deriving DecidableEq, Repr, Inhabited

/-- The end of a range that has begun, and what follows it. -/
def rangeEnd? : MarkedText → Option (Char × MarkedText)
  | ('-', _) :: (d, marked) :: rest => if d = ']' ∧ !marked then none else some (d, rest)
  | _ => none

/-- The ranges of a set up to its closing bracket, which may come first as a member. -/
def ranges : Nat → Bool → MarkedText → Option (List (Char × Char) × MarkedText)
  | 0, _, _ | _, _, [] => none
  | fuel + 1, first, (c, marked) :: cs =>
    if c = ']' ∧ !marked ∧ !first then some ([], cs)
    else do
      let (d, rest) := (rangeEnd? cs).getD (c, cs)
      let (more, rest) ← ranges fuel false rest
      return ((c, d) :: more, rest)

/-- The items of a pattern. -/
def items : Nat → MarkedText → List Item
  | 0, _ | _, [] => []
  | fuel + 1, (c, marked) :: cs =>
    if marked then .char c :: items fuel cs
    else if c = '*' then .star :: items fuel cs
    else if c = '?' then .any :: items fuel cs
    else if c = '[' then
      let (negated, inside) := match cs with
        | ('!', false) :: rest | ('^', false) :: rest => (true, rest)
        | rest => (false, rest)
      match ranges fuel true inside with
      | some (set, rest) => .oneOf negated set :: items fuel rest
      | none => .char c :: items fuel cs
    else .char c :: items fuel cs

/-- Whether items match a text as a whole. -/
def matchesItems : List Item → ByteText → Bool
  | [], t => t.isEmpty
  | .star :: p, [] => matchesItems p []
  | .star :: p, c :: t => matchesItems p (c :: t) || matchesItems (.star :: p) t
  | .any :: p, _ :: t => matchesItems p t
  | .oneOf negated set :: p, c :: t =>
    (set.any fun (first, last) => first ≤ c && c ≤ last) != negated && matchesItems p t
  | .char d :: p, c :: t => d = c && matchesItems p t
  | _ :: _, [] => false
termination_by p t => p.length + t.length

/-- Whether a pattern matches a text as a whole. -/
def matchesText (pattern : MarkedText) (t : ByteText) : Bool :=
  matchesItems (items pattern.length pattern) t

/-- Whether a text has a character that makes it a pattern. -/
def isPattern (t : MarkedText) : Bool :=
  t.any fun (c, marked) => !marked && (c = '*' || c = '?' || c = '[')

def plain (t : MarkedText) : ByteText := t.map (·.1)

/-- The lengths to try for the part that is taken off, in their order. -/
def lengths (longest : Bool) (n : Nat) : List Nat :=
  let upwards := List.range (n + 1)
  if longest then upwards.reverse else upwards

/-- The text without the shortest or longest part at its start or end that the pattern matches. -/
def without (atEnd longest : Bool) (pattern : MarkedText) (t : ByteText) : ByteText :=
  let items := items pattern.length pattern
  let parts (n : Nat) : ByteText × ByteText :=
    if atEnd then (t.drop (t.length - n), t.take (t.length - n)) else (t.take n, t.drop n)
  match (lengths longest t.length).find? fun n => matchesItems items (parts n).1 with
  | some n => (parts n).2
  | none => t

end Glob

end FixGrader.Host
