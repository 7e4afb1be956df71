import FixGrader.Stage.Outcome
import FixGrader.Tool.Lint
import FixGrader.World
/-!
# The lint stage

The linter looks at the submitted files; each security diagnostic costs points. Where the linter
cannot be run, or gives no usable report, half of the points are given.
-/
namespace FixGrader.LintStage

def checkName : String := "Static Analysis"

/-- The outcome where the linter could not be used. -/
def partialOutcome (reason : String) : StageOutcome :=
  (StageOutcome.of .lint Scoring.lintPartialPoints
    (.inPart checkName ("Static analysis partially completed: " ++ reason))).recommend
      "Install Node.js and npm dependencies (npm install) to enable full static analysis."

/-- The outcome for the diagnostics of a report. -/
def outcomeOf (diagnostics : List Lint.Diagnostic) : StageOutcome :=
  let issues := (diagnostics.filter (·.isSecurity)).map (·.issue)
  let count := issues.length
  let check :=
    if count = 0 then Check.pass checkName "No security issues reported by the linter"
    else Check.fail checkName ("Linter reported " ++ toString count ++ " security issue(s)")
  let outcome := (StageOutcome.of .lint (Scoring.lintPoints count)
    (check.withDetails [("issue_count", Json.ofNat count)])).withIssues issues
  if 0 < count then
    outcome.recommend "Resolve the eslint-plugin-security findings listed above."
  else outcome

/-- Runs the linter in a workspace that is prepared for it. -/
def report (runner : Runner) (settings : ToolSettings) (w : Workspace) :
    Run (Except Tool.Failure (List Lint.Diagnostic)) := do
  match ← runner.probe settings.npx (settings.probeSeconds * 1000) with
  | .error failure => return .error failure
  | .ok () =>
    match ← runner.call (Lint.invocation settings w) with
    | .error failure => return .error failure
    | .ok output => return Lint.readReport output.stdout

/-- Prepares a workspace for the linter. -/
def prepare (w : Workspace) : Run (Except Lint.Setup.Error Lint.Setup) := do
  let (result, disk) := Lint.Setup.ensure (← Run.disk) w.root
  Run.setDisk disk
  return result

/-- The stage: problems with the workspace or with the tool cost half of the points. -/
def run (runner : Runner) (settings : ToolSettings) (w : Option Workspace) : Run StageOutcome := do
  if !settings.lint then return partialOutcome "static analysis is disabled in configuration"
  let some w := w | return partialOutcome "no submitted files to analyse"
  match ← prepare w with
  | .error e =>
    Run.warn Log.Target.lint "could not prepare workspace for linting" [("error", .shown e.message)]
    return partialOutcome ("workspace setup failed: " ++ e.message)
  | .ok setup =>
    Run.debug Log.Target.lint "linter setup"
      [("report", .shown setup.text), ("root", .shown w.root.text)]
    match ← report runner settings w with
    | .error failure =>
      Run.warn Log.Target.lint "static analysis unavailable" [("error", .shown failure.message)]
      return partialOutcome failure.message
    | .ok diagnostics =>
      let outcome := outcomeOf diagnostics
      Run.debug Log.Target.lint "static analysis stage"
        [("issues", .ofNat outcome.issues.length), ("score", .ofDouble outcome.points)]
      return outcome

end FixGrader.LintStage
