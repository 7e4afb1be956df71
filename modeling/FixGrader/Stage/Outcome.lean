import FixGrader.Grading.Check
import FixGrader.Grading.Issue
import FixGrader.Grading.Score
/-!
# What a stage yields

A validation has three stages. Each yields points, a check, issues and recommendations.
-/
namespace FixGrader

inductive Stage where
  | pattern
  | lint
  | audit
  deriving DecidableEq, Repr, Inhabited

namespace Stage

/-- The name of a stage in reports. -/
def key : Stage → String
  | pattern => "pattern"
  | lint => "static_analysis"
  | audit => "dependency"

def text : Stage → String
  | pattern => "pattern"
  | lint => "static analysis"
  | audit => "dependency"

def ofKey? (s : String) : Option Stage := [pattern, lint, audit].find? (·.key = s)

/-- The most points that a stage gives. -/
def full : Stage → Double
  | pattern => Scoring.patternMax
  | lint => Scoring.lintMax
  | audit => Scoring.auditMax

end Stage

structure StageOutcome where
  stage : Stage
  points : Double
  full : Double
  check : Check
  issues : List Issue
  recommendations : List String
  deriving Repr, Inhabited

namespace StageOutcome

/-- An outcome whose points are brought between zero and the full ones; none if there is no such
range. -/
def clamped? (stage : Stage) (points full : Double) (check : Check) : Option StageOutcome :=
  (points.clamp? .zero full).map fun points => ⟨stage, points, full, check, [], []⟩

/-- An outcome of a stage, whose points do not exceed the full ones. -/
def of (stage : Stage) (points : Double) (check : Check) : StageOutcome :=
  ⟨stage, points, stage.full, check, [], []⟩

def withIssues (o : StageOutcome) (issues : List Issue) : StageOutcome := { o with issues }

def recommend (o : StageOutcome) (recommendation : String) : StageOutcome :=
  { o with recommendations := o.recommendations ++ [recommendation] }

end StageOutcome

end FixGrader
