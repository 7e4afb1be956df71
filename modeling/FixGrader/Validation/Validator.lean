import FixGrader.Failure
import FixGrader.Stage.Audit
import FixGrader.Stage.Lint
import FixGrader.Stage.Pattern
import FixGrader.Validation.Result
/-!
# Validating a submission

A validator carries out the three stages in order: patterns, linter, audit. Whatever the tools do,
there is a result; only a manifest that cannot be read breaks a validation off, after the second
stage.
-/
namespace FixGrader

structure Validator where
  registry : Registry
  tools : ToolSettings
  deriving Inhabited

namespace Validator

/-- The validator of some settings, whose rules have to be usable. -/
def ofSettings (settings : Settings) : Except RuleError Validator := do
  return ⟨← Registry.withSettings settings.rules, settings.tools⟩

/-- Notes that a stage is complete. -/
def noteStage (o : StageOutcome) : Run Unit :=
  Run.debug Log.Target.validation "stage complete"
    [("stage", .shown o.stage.text), ("score", .ofDouble o.points), ("max", .ofDouble o.full)]

/-- The outcomes of the stages, and the error that broke the validation off, if there was one. -/
def stages (v : Validator) (runner : Runner) (s : Submission) :
    Run (List StageOutcome × Option FileError) := do
  let pattern ← PatternStage.run v.registry s.category s.content
  noteStage pattern
  let workspace := Workspace.resolve s.workspace s.files
  let lint ← LintStage.run runner v.tools workspace
  noteStage lint
  match ← AuditStage.run runner v.tools workspace with
  | .error e => return ([pattern, lint], some e)
  | .ok audit =>
    noteStage audit
    return ([pattern, lint, audit], none)

/-- Notes what came of a validation. -/
def noteResult (abort : Option FileError) (result : Validation) : Run Unit := do
  if let some e := abort then
    Run.warn Log.Target.validation "validation aborted"
      [("error", .shown (Failure.file e).message), ("challenge", .shown result.challengeId)]
  Run.info Log.Target.validation "validation finished"
    [("challenge", .shown result.challengeId), ("score", .ofNat result.score),
      ("grade", .shown result.grade.text), ("passed", .ofBool result.passed)]

/-- Validates a submission at a time. -/
def validate (v : Validator) (runner : Runner) (now : Timestamp) (s : Submission) :
    Run Validation := do
  let (outcomes, abort) ← v.stages runner s
  let result := Validation.ofOutcomes s outcomes abort now
  noteResult abort result
  return result

end Validator

end FixGrader
