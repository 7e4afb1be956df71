import FixGrader.Challenge.Submission
import FixGrader.Failure
import FixGrader.Grading.Grade
import FixGrader.Stage.Outcome
import FixGrader.Text.Sha256
/-!
# The result of a validation

The points of the stages add up to a score and a grade; a score of 80 passes. A result also says
what each stage found, and of which text it speaks.
-/
namespace FixGrader

/-- The points of each stage; none for a stage that was not carried out. -/
structure SubScores where
  pattern : Option Double
  lint : Option Double
  audit : Option Double
  deriving DecidableEq, Repr, Inhabited

namespace SubScores

/-- The points of a stage among some outcomes. -/
def pointsOf (outcomes : List StageOutcome) (stage : Stage) : Option Double :=
  (outcomes.find? (·.stage = stage)).map (·.points)

def ofOutcomes (outcomes : List StageOutcome) : SubScores :=
  ⟨pointsOf outcomes .pattern, pointsOf outcomes .lint, pointsOf outcomes .audit⟩

def values (s : SubScores) : List Double := [s.pattern, s.lint, s.audit].filterMap id

end SubScores

structure Validation where
  challengeId : String
  category : String
  passed : Bool
  score : Nat
  maxScore : Nat
  grade : Grade
  subScores : SubScores
  checks : List Check
  issues : List Issue
  recommendations : List String
  /-- The SHA-256 digest of the text that was checked. -/
  digest : String
  validatedAt : Timestamp
  deriving Repr, Inhabited

namespace Validation

/-- The name of the check that stands for a validation that was broken off. -/
def errorCheckName : String := "Validation Error"

def errorCheck (e : FileError) : Check :=
  .fail errorCheckName
    ("Validation could only be partially performed: " ++ (Failure.file e).message)

/-- Whether a stage was carried out only in part, or the validation was broken off. -/
def isPartial (v : Validation) : Bool :=
  v.checks.any fun c => c.isPartial || c.name = errorCheckName

/-- The texts of a list, each one where it stands first. -/
def distinct (texts : List String) : List String :=
  texts.foldl (fun seen t => if seen.contains t then seen else seen ++ [t]) []

/-- The result for the outcomes of the stages. A validation that was broken off does not pass. -/
def ofOutcomes (s : Submission) (outcomes : List StageOutcome) (abort : Option FileError)
    (now : Timestamp) : Validation :=
  let subScores := SubScores.ofOutcomes outcomes
  let score := Scoring.total subScores.values
  { challengeId := s.challengeId
    category := s.category
    passed := abort.isNone && Scoring.isPassing score
    score
    maxScore := Scoring.maxScore
    grade := Grade.forScore score
    subScores
    checks := outcomes.map (·.check) ++ abort.toList.map errorCheck
    issues := outcomes.flatMap (·.issues)
    recommendations := distinct (outcomes.flatMap (·.recommendations))
    digest := Text.Sha256.digest (Text.toBytes s.content)
    validatedAt := now }

end Validation

open Json

namespace SubScores

def toJson (s : SubScores) : Json :=
  let points := ofOption fun d => Json.number (.real d)
  .object [("pattern", points s.pattern), ("static_analysis", points s.lint),
    ("dependency", points s.audit)]

def decoder : Decoder SubScores :=
  .record ["pattern", "static_analysis", "dependency"] fun
    | [pattern, lint, audit] => do
      return ⟨← pattern.nullable .double, ← lint.nullable .double, ← audit.nullable .double⟩
    | _ => none

end SubScores

namespace Validation

def toJson (v : Validation) : Json :=
  .object [("challenge_id", .string v.challengeId), ("category", .string v.category),
    ("passed", .bool v.passed), ("score", ofNat v.score), ("max_score", ofNat v.maxScore),
    ("grade", .string v.grade.text), ("sub_scores", v.subScores.toJson),
    ("checks", .array (v.checks.map Check.toJson)), ("issues", .array (v.issues.map Issue.toJson)),
    ("recommendations", ofStrings v.recommendations), ("submission_digest", .string v.digest),
    ("validated_at", .string v.validatedAt.text)]

def gradeDecoder : Decoder Grade := .keyword Grade.ofText?

def timeDecoder : Decoder Timestamp := Decoder.string.filterMap Timestamp.ofText?

def decoder : Decoder Validation :=
  .record ["challenge_id", "category", "passed", "score", "max_score", "grade", "sub_scores",
      "checks", "issues", "recommendations", "submission_digest", "validated_at"] fun
    | [challengeId, category, passed, score, maxScore, grade, subScores, checks, issues,
        recommendations, digest, validatedAt] => do
      return {
        challengeId := ← challengeId.required .string
        category := ← category.required .string
        passed := ← passed.required .bool
        score := ← score.required (.natural 32)
        maxScore := ← maxScore.required (.natural 32)
        grade := ← grade.required gradeDecoder
        subScores := ← subScores.required SubScores.decoder
        checks := ← checks.required (.list Check.decoder)
        issues := ← issues.required (.list Issue.decoder)
        recommendations := ← recommendations.required (.list .string)
        digest := ← digest.required .string
        validatedAt := ← validatedAt.required timeDecoder }
    | _ => none

end Validation

end FixGrader
