import FixGrader.Challenge.Attempt
import FixGrader.Validation.Report
import FixGrader.Validation.Validator
/-!
# Sessions

A session has at most one challenge that is being worked on. Each check reads the files as they are
and validates them; a result is recorded with the attempt. Where no validator can be made, a quick
check is all there is, and it is not recorded.
-/
namespace FixGrader

/-- What comes of checking a solution. -/
inductive CheckOutcome where
  | full (result : Validation) (progress : Progress)
  | degraded (verdict : QuickCheck.Verdict)
  deriving Repr, Inhabited

namespace CheckOutcome

def passed : CheckOutcome → Bool
  | full result _ => result.passed
  | degraded verdict => verdict.passed

def toJson : CheckOutcome → Json
  | full result progress =>
    .object [("mode", .string "full"), ("result", result.toJson), ("progress", progress.toJson)]
  | degraded verdict => .object [("mode", .string "degraded"), ("verdict", verdict.toJson)]

def render (format : Report.Format) : CheckOutcome → String
  | full result _ => Report.render result format
  | degraded verdict => Report.renderVerdict verdict format

end CheckOutcome

/-- The challenge that is being worked on. -/
structure ActiveChallenge where
  challengeId : String
  category : String
  workspace : Option Path
  files : List Path
  attempt : Attempt
  deriving DecidableEq, Repr, Inhabited

structure Session where
  active : Option ActiveChallenge
  deriving DecidableEq, Repr, Inhabited

namespace Session

def new : Session := ⟨none⟩

def attempt (s : Session) : Option Attempt := s.active.map (·.attempt)

/-- Begins a challenge with a new attempt, which is started. -/
def start? (id : String) (now : Timestamp) (challengeId category : String)
    (workspace : Option Path) (files : List Path) : Except Failure Session := do
  let attempt ← (Attempt.new id challengeId).start now
  return ⟨some ⟨challengeId, category, workspace, files, attempt⟩⟩

/-- The session after a challenge was begun in the stead of the one before; after an error it is the
same. -/
def start (s : Session) (id : String) (now : Timestamp) (challengeId category : String)
    (workspace : Option Path) (files : List Path) : Session :=
  match start? id now challengeId category workspace files with
  | .ok s' => s'
  | .error _ => s

/-- Begins a challenge in a workspace. -/
def startChallenge (s : Session) (id : String) (now : Timestamp) (c : Challenge)
    (workspace : Path) : Session :=
  s.start id now c.id c.category (some workspace) (c.filePaths workspace)

/-- Begins the active challenge anew. -/
def restart (s : Session) (id : String) (now : Timestamp) : Except Failure Session :=
  match s.active with
  | none => .error .noActiveChallenge
  | some active => .ok ⟨some { active with attempt := active.attempt.restart id now }⟩

/-- The active challenge, unless its attempt is completed. -/
def open? (s : Session) : Except Failure ActiveChallenge :=
  match s.active with
  | none => .error .noActiveChallenge
  | some active =>
    if active.attempt.isCompleted then .error (.attemptClosed active.attempt.id) else .ok active

/-- Reads the files of a challenge. -/
def submission (active : ActiveChallenge) : Run Submission := do
  let s ← Submission.read active.challengeId active.category active.files
  return { s with workspace := active.workspace }

/-- Checks the active challenge with the validator that is built for it, or with the quick check if
none can be built. The result is the outcome and the session afterwards; after an error the session
is the same. -/
def checkBuilding (s : Session) (build : Run (Except Failure Validator)) (runner : Runner)
    (now : Timestamp) : Run (Except Failure CheckOutcome × Session) := do
  match s.open? with
  | .error e => return (.error e, s)
  | .ok active =>
    let submission ← submission active
    match ← build with
    | .ok validator =>
      let result ← validator.validate runner now submission
      match active.attempt.record now result.passed result.score with
      | .error e => return (.error e, s)
      | .ok attempt =>
        return (.ok (.full result (.ofValidation result)), ⟨some { active with attempt }⟩)
    | .error e =>
      Run.warn Log.Target.session "validator unavailable, using simplified check"
        [("error", .shown e.message)]
      return (.ok (.degraded (QuickCheck.check submission.category submission.content)), s)

/-- Checks the active challenge with a validator that is there already, or with none. -/
def check (s : Session) (validator : Except Failure Validator) (runner : Runner)
    (now : Timestamp) : Run (Except Failure CheckOutcome × Session) :=
  s.checkBuilding (pure validator) runner now

/-- Checks the active challenge under some settings. -/
def checkWith (s : Session) (settings : Settings) (runner : Runner) (now : Timestamp) :
    Run (Except Failure CheckOutcome × Session) :=
  s.check ((Validator.ofSettings settings).mapError Failure.ofRuleError) runner now

end Session

end FixGrader
