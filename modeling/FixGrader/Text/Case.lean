import FixGrader.Text.Case.Table
import FixGrader.Text.Property
/-!
# Letter case

Lower case of whole texts, with the final form of the Greek sigma, and the groups of characters
that a search without regard to case treats as one.
-/
namespace FixGrader.Text

/-- The character at `distance` from `n` in the run, when the run holds `n`. -/
def mapByRun (n : Nat) (run : Nat × Nat × Nat × Int) : Option Nat :=
  let (first, count, step, distance) := run
  if first ≤ n ∧ n ≤ first + (count - 1) * step ∧ (n - first) % step = 0 then
    some ((n : Int) + distance).toNat
  else none

/-- The lower case of one character; only the dotted capital i has two characters. -/
def lowerChar (c : Char) : List Char :=
  if isAscii c then [if 'A' ≤ c ∧ c ≤ 'Z' then Char.ofNat (c.toNat + 32) else c]
  else if c == 'İ' then ['i', '\u0307']
  else match lowerRuns.findSome? (mapByRun c.toNat) with
    | some n => [Char.ofNat n]
    | none => [c]

/-- Whether the first character that is not ignored by case is a cased one. -/
def casedAhead (cs : List Char) : Bool :=
  match cs.dropWhile (fun c => caseIgnorableTable.contains c.toNat) with
  | [] => false
  | c :: _ => casedTable.contains c.toNat

/-- Lower case of the characters `cs`, which follow `before` (nearest first). A capital sigma at
the end of a word takes its final form. -/
def lowerAfter (before : List Char) : List Char → List Char
  | [] => []
  | c :: cs =>
    let here :=
      if c == 'Σ' then (if casedAhead before && !casedAhead cs then ['ς'] else ['σ'])
      else lowerChar c
    here ++ lowerAfter (c :: before) cs

/-- The text in lower case. -/
def lower (s : String) : String := String.ofList (lowerAfter [] s.toList)

/-- The other case of an ASCII letter. -/
def asciiVariants (c : Char) : List Char :=
  if 'a' ≤ c ∧ c ≤ 'z' then [Char.ofNat (c.toNat - 32)]
  else if 'A' ≤ c ∧ c ≤ 'Z' then [Char.ofNat (c.toNat + 32)]
  else []

/-- Characters outside of ASCII that differ from the given one only in case, and inside of it. -/
def foldVariants (n : Nat) : List Nat :=
  match foldGroups.find? (·.contains n) with
  | some group => group.filter (· != n)
  | none =>
    match foldRuns.findSome? (mapByRun n) with
    | some m => [m]
    | none =>
      let back (run : Nat × Nat × Nat × Int) : Option Nat :=
        let m := ((n : Int) - run.2.2.2).toNat
        if mapByRun m run = some n then some m else none
      (foldRuns.findSome? back).toList

/-- Characters that differ from the given one only in case. Two letters of ASCII have such
counterparts beyond it: the Kelvin sign and the long s. -/
def caseVariants (c : Char) : List Char :=
  if isAscii c then
    asciiVariants c ++
      (if c = 'k' ∨ c = 'K' then ['\u212a'] else if c = 's' ∨ c = 'S' then ['\u017f'] else [])
  else (foldVariants c.toNat).map Char.ofNat

end FixGrader.Text
