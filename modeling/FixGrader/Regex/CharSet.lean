import FixGrader.Text.Case
/-!
# Sets of characters

What one position of a pattern may match: ranges, named classes and their combinations, as a
description whose meaning is `CharSet.contains`.
-/
namespace FixGrader.Regex

open Text (RangeTable)

inductive CharSet where
  | none
  | range (first last : Char)
  /-- The code points of a table. -/
  | table (ranges : RangeTable)
  | decimal
  | blank
  | word
  | union (a b : CharSet)
  | inter (a b : CharSet)
  | compl (a : CharSet)
  /-- The characters of `a` and all that differ from one of them only in case. -/
  | anyCase (a : CharSet)
  /-- The same for the letters of ASCII alone. -/
  | anyAsciiCase (a : CharSet)
  deriving DecidableEq, Repr, Inhabited

namespace CharSet

def contains : CharSet → Char → Bool
  | none, _ => false
  | range first last, c => first ≤ c && c ≤ last
  | table ranges, c => ranges.contains c.toNat
  | decimal, c => Text.isDecimal c
  | blank, c => Text.isBlank c
  | word, c => Text.isWord c
  | union a b, c => a.contains c || b.contains c
  | inter a b, c => a.contains c && b.contains c
  | compl a, c => !a.contains c
  | anyCase a, c => a.contains c || (Text.caseVariants c).any a.contains
  | anyAsciiCase a, c => a.contains c || (Text.asciiVariants c).any a.contains

def single (c : Char) : CharSet := range c c

def all : CharSet := compl none

def ofRanges (l : List (Char × Char)) : CharSet :=
  l.foldr (fun r s => union (range r.1 r.2) s) none

def ofChars (l : List Char) : CharSet := ofRanges (l.map fun c => (c, c))

def diff (a b : CharSet) : CharSet := inter a (compl b)

/-- The characters in exactly one of the two sets. -/
def symmDiff (a b : CharSet) : CharSet := union (diff a b) (diff b a)

def negateIf (negated : Bool) (a : CharSet) : CharSet := if negated then compl a else a

/-- How many bytes of the automaton of a pattern the set takes, about; a character has a state for each
of its bytes. -/
def size : CharSet → Nat
  | none => 32
  | range first last =>
    if first = last then 32 * first.utf8Size else if Text.isAscii last then 40 else 300
  | table ranges => 60 * ranges.size
  | decimal => 4640
  | blank => 680
  | word => 48168
  | union a b => a.size + b.size
  | inter a b => max a.size b.size
  | compl a => a.size + 700
  | anyCase a => 2 * a.size
  | anyAsciiCase a => a.size + 8

end CharSet

end FixGrader.Regex
