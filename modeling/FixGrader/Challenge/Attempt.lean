import FixGrader.Validation.Result
/-!
# Attempts

One pass through a challenge: it is started, checked any number of times, and completed by the
first check that passes. A completed attempt takes no more checks; a restart makes a new one.
-/
namespace FixGrader

inductive Attempt.Status where
  | notStarted
  | inProgress
  | completed
  deriving DecidableEq, Repr, Inhabited

structure Attempt where
  id : String
  challengeId : String
  status : Attempt.Status
  startedAt : Option Timestamp
  completedAt : Option Timestamp
  /-- How many checks were recorded. -/
  checks : Nat
  bestScore : Option Nat
  deriving DecidableEq, Repr, Inhabited

namespace Attempt

namespace Status

def key : Status → String
  | notStarted => "not_started"
  | inProgress => "in_progress"
  | completed => "completed"

def text : Status → String
  | notStarted => "not started"
  | inProgress => "in progress"
  | completed => "completed"

end Status

/-- A new attempt at a challenge. -/
def new (id challengeId : String) : Attempt := ⟨id, challengeId, .notStarted, none, none, 0, none⟩

def isCompleted (a : Attempt) : Bool := a.status = .completed

/-- Starts an attempt; one that is in progress stays as it is. -/
def start (a : Attempt) (now : Timestamp) : Except Failure Attempt :=
  match a.status with
  | .notStarted => .ok { a with status := .inProgress, startedAt := some now }
  | .inProgress => .ok a
  | .completed => .error (.attemptClosed a.id)

/-- The better one of a score and the best one so far. -/
def best (score : Nat) : Option Nat → Nat
  | none => score
  | some b => max b score

/-- Records a check, which completes the attempt if it passed. -/
def record (a : Attempt) (now : Timestamp) (passed : Bool) (score : Nat) :
    Except Failure Attempt := do
  let a ← a.start now
  let a := { a with checks := a.checks + 1, bestScore := some (best score a.bestScore) }
  return if passed then { a with status := .completed, completedAt := some now } else a

/-- A new attempt at the same challenge, already started. -/
def restart (a : Attempt) (id : String) (now : Timestamp) : Attempt :=
  { new id a.challengeId with status := .inProgress, startedAt := some now }

end Attempt

/-- What is kept of a result. -/
structure Progress where
  challengeId : String
  passed : Bool
  score : Nat
  grade : Grade
  recordedAt : Timestamp
  deriving DecidableEq, Repr, Inhabited

namespace Progress

def ofValidation (v : Validation) : Progress :=
  ⟨v.challengeId, v.passed, v.score, v.grade, v.validatedAt⟩

open Json in
def toJson (p : Progress) : Json :=
  .object [("challenge_id", .string p.challengeId), ("passed", .bool p.passed),
    ("score", ofNat p.score), ("grade", .string p.grade.text),
    ("recorded_at", .string p.recordedAt.text)]

end Progress

end FixGrader
