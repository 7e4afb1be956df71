import FixGrader.Number.Double
/-!
# Scoring

How findings turn into points. Three stages contribute at most 60, 25 and 15 points; each finding
costs a fixed number of them, and a stage that could not run in full gives a part of its points.
A total of 80 passes.
-/
namespace FixGrader.Scoring

def maxScore : Nat := 100

def passThreshold : Nat := 80

def patternMax : Double := .ofNat 60

/-- What is left of the points when nothing vulnerable, but nothing secure either, was found. -/
def patternNoEvidenceFactor : Double := .ofRatio false 7 10

def patternPenalty : Double := .ofNat 20

def lintMax : Double := .ofNat 25

def lintPenalty : Double := .ofNat 5

def lintPartialFactor : Double := .ofHalves 1

def auditMax : Double := .ofNat 15

def auditPenalty : Double := .ofNat 3

def auditPartialFactor : Double := .ofRatio false 8 10

/-- The points that are left after `count` findings, never fewer than none. -/
def penalized (full penalty : Double) (count : Nat) : Double :=
  (full.sub (penalty.mul (.ofNat count))).larger .zero

/-- The total of the points of some stages, rounded to an integer with halves going up, and at
most `maxScore`. -/
def total (points : List Double) : Nat :=
  let sum := points.foldl (fun (sum p : Double) => sum.add (p.larger .zero)) Double.zero
  min (sum.roundToNat (2 ^ (32 : Nat) - 1)) maxScore

def isPassing (score : Nat) : Bool := decide (passThreshold ≤ score)

/-- The points of the pattern stage: full marks need visible secure idioms and no vulnerable match;
each vulnerable match costs a fixed penalty. -/
def patternPoints (vulnerable secure : Nat) : Double :=
  if 0 < vulnerable then penalized patternMax patternPenalty vulnerable
  else if 0 < secure then patternMax
  else patternMax.mul patternNoEvidenceFactor

def lintPoints (findings : Nat) : Double := penalized lintMax lintPenalty findings

def lintPartialPoints : Double := lintMax.mul lintPartialFactor

def auditPoints (findings : Nat) : Double := penalized auditMax auditPenalty findings

def auditPartialPoints : Double := auditMax.mul auditPartialFactor

end FixGrader.Scoring
