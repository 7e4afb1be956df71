import FixGrader.Failure
import FixGrader.Stage.Outcome
import FixGrader.Tool.Audit
import FixGrader.Tool.Manifest
import FixGrader.World
/-!
# The audit stage

Where the manifest of the workspace names dependencies, they are audited; each vulnerable package
costs points. Where there is nothing to audit all points are given, and where the audit cannot be
made, a part of them. Only a manifest that cannot be read at all is an error.
-/
namespace FixGrader.AuditStage

def checkName : String := "Dependency Scan"

/-- The outcome where there is nothing to audit. -/
def fullOutcome (message : String) : StageOutcome :=
  .of .audit Scoring.auditMax (.pass checkName message)

/-- The outcome where the audit could not be made. -/
def partialOutcome (reason : String) : StageOutcome :=
  .of .audit Scoring.auditPartialPoints
    (.inPart checkName ("Dependency scan partially completed: " ++ reason))

/-- The outcome for the packages of a report. -/
def outcomeOf (packages : List Audit.Package) : StageOutcome :=
  let count := packages.length
  let check :=
    if count = 0 then Check.pass checkName "No vulnerable dependencies found"
    else Check.fail checkName (toString count ++ " vulnerable package(s) found")
  let outcome := (StageOutcome.of .audit (Scoring.auditPoints count)
    (check.withDetails [("vulnerable_packages", Json.ofNat count)])).withIssues
      (packages.map (·.issue))
  if 0 < count then
    outcome.recommend "Upgrade the vulnerable packages (npm audit fix) or replace them."
  else outcome

/-- Runs the auditor. -/
def report (runner : Runner) (settings : ToolSettings) (w : Workspace) :
    Run (Except Tool.Failure (List Audit.Package)) := do
  match ← runner.probe settings.npm (settings.probeSeconds * 1000) with
  | .error failure => return .error failure
  | .ok () =>
    match ← runner.call (Audit.invocation settings w) with
    | .error failure => return .error failure
    | .ok output => return Audit.readReport output.stdout

/-- The stage for a manifest that names dependencies. -/
def audit (runner : Runner) (settings : ToolSettings) (w : Workspace) : Run StageOutcome := do
  if !settings.audit then
    return partialOutcome "dependency audit is disabled in configuration"
  match ← report runner settings w with
  | .error failure =>
    Run.warn Log.Target.audit "dependency audit unavailable" [("error", .shown failure.message)]
    return partialOutcome failure.message
  | .ok packages =>
    let outcome := outcomeOf packages
    Run.debug Log.Target.audit "dependency stage"
      [("vulnerable_packages", .ofNat packages.length), ("score", .ofDouble outcome.points)]
    return outcome

/-- The stage. -/
def run (runner : Runner) (settings : ToolSettings) (w : Option Workspace) :
    Run (Except FileError StageOutcome) := do
  let some w := w | return .ok (fullOutcome "No dependency manifest found")
  let path := w.root.join ⟨Manifest.fileName⟩
  let disk ← Run.disk
  if !disk.exists? path then return .ok (fullOutcome "No dependency manifest found")
  match disk.readText path with
  | .error e => return .error e
  | .ok text =>
    match Json.ofText text with
    | .error e =>
      let message := (Failure.manifest path.text e.message).message
      Run.warn Log.Target.audit "dependency manifest unreadable" [("error", .shown message)]
      return .ok (partialOutcome message)
    | .ok manifest =>
      if Manifest.declaresDependencies manifest then
        return .ok (← audit runner settings w)
      else return .ok (fullOutcome "No runtime dependencies declared")

end FixGrader.AuditStage
