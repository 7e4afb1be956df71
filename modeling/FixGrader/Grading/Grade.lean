/-!
# Letter grades
-/
namespace FixGrader

/-- Grades from the worst to the best. -/
inductive Grade where
  | f
  | cMinus
  | c
  | cPlus
  | bMinus
  | b
  | bPlus
  | aMinus
  | a
  | aPlus
  deriving DecidableEq, Repr, Inhabited

namespace Grade

def text : Grade → String
  | f => "F"
  | cMinus => "C-"
  | c => "C"
  | cPlus => "C+"
  | bMinus => "B-"
  | b => "B"
  | bPlus => "B+"
  | aMinus => "A-"
  | a => "A"
  | aPlus => "A+"

def all : List Grade := [f, cMinus, c, cPlus, bMinus, b, bPlus, aMinus, a, aPlus]

def ofText? (s : String) : Option Grade := all.find? (·.text = s)

/-- The place of a grade in the order from the worst to the best. -/
def rank : Grade → Nat
  | f => 0
  | cMinus => 1
  | c => 2
  | cPlus => 3
  | bMinus => 4
  | b => 5
  | bPlus => 6
  | aMinus => 7
  | a => 8
  | aPlus => 9

/-- The least score of each grade but the worst, the best grade first. -/
def table : List (Nat × Grade) := [
  (95, aPlus), (90, a), (85, aMinus), (80, bPlus), (75, b), (70, bMinus), (65, cPlus), (60, c),
  (55, cMinus)]

/-- The best grade whose least score is reached. -/
def forScore (score : Nat) : Grade := ((table.find? (·.1 ≤ score)).map (·.2)).getD f

end Grade

end FixGrader
