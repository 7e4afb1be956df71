import FixGrader.Challenge.Session
import FixGrader.Proofs.Attempt.Lifecycle
import FixGrader.Proofs.World.Steps
/-!
# Runs of a session

Operations are carried out on a session one after the other, and each one gets its reply. A check
comes with the world that it finds, so that anything may have happened to the files between two
operations.
-/
namespace FixGrader.Session

inductive Operation where
  | start (id : String) (now : Timestamp) (challengeId category : String)
      (workspace : Option Path) (files : List Path)
  | startChallenge (id : String) (now : Timestamp) (challenge : Challenge) (workspace : Path)
  | restart (id : String) (now : Timestamp)
  | check (build : Run (Except Failure Validator)) (runner : Runner) (now : Timestamp) (w : World)

def Operation.starts : Operation → Bool
  | .start .. => true
  | .startChallenge .. => true
  | .restart .. => false
  | .check .. => false

def Operation.isCheck : Operation → Bool
  | .check .. => true
  | _ => false

inductive Reply where
  | begun
  | checked (outcome : CheckOutcome)
  | refused (e : Failure)

def Reply.ofCheck : Except Failure CheckOutcome → Reply
  | .ok outcome => .checked outcome
  | .error e => .refused e

def Reply.ofStart : Except Failure Session → Reply
  | .ok _ => .begun
  | .error e => .refused e

def perform (s : Session) : Operation → Reply × Session
  | .start id now challengeId category workspace files =>
    (.ofStart (start? id now challengeId category workspace files),
      s.start id now challengeId category workspace files)
  | .startChallenge id now challenge workspace =>
    (.ofStart (start? id now challenge.id challenge.category (some workspace)
      (challenge.filePaths workspace)), s.startChallenge id now challenge workspace)
  | .restart id now =>
    match s.restart id now with
    | .ok s' => (.begun, s')
    | .error e => (.refused e, s)
  | .check build runner now w =>
    let answer := ((s.checkBuilding build runner now).run w).1
    (.ofCheck answer.1, answer.2)

structure Exchange where
  operation : Operation
  reply : Reply

def resume (past : List Exchange × Session) (operations : List Operation) :
    List Exchange × Session :=
  operations.foldl (fun past op =>
    (⟨op, (past.2.perform op).1⟩ :: past.1, (past.2.perform op).2)) past

def run (operations : List Operation) : List Exchange × Session := resume ([], new) operations

theorem run_append (operations later : List Operation) :
    run (operations ++ later) = resume (run operations) later := by
  simp only [run, resume, List.foldl_append]

theorem run_concat (operations : List Operation) (op : Operation) :
    run (operations ++ [op]) =
      (⟨op, ((run operations).2.perform op).1⟩ :: (run operations).1,
        ((run operations).2.perform op).2) := run_append operations [op]

/-- What holds at first and is kept by each operation of a run holds at its end. -/
theorem run_induction {P : List Exchange → Session → Prop} {operations : List Operation}
    (base : P [] new) (step : ∀ past s, ∀ op ∈ operations, P past s →
      P (⟨op, (s.perform op).1⟩ :: past) (s.perform op).2) :
    P (run operations).1 (run operations).2 := by
  induction operations using List.reverseRecOn with
  | nil => exact base
  | append_singleton operations op ih =>
    rw [run_concat]
    refine step _ _ op (by simp) (ih fun past s op' listed => ?_)
    exact step past s op' (List.mem_append_left [op] listed)

/-- A new attempt can always be started. -/
theorem start?_eq (id : String) (now : Timestamp) (challengeId category : String)
    (workspace : Option Path) (files : List Path) :
    start? id now challengeId category workspace files =
      .ok ⟨some ⟨challengeId, category, workspace, files,
        { Attempt.new id challengeId with status := .inProgress, startedAt := some now }⟩⟩ := rfl

/-- An attempt that is under way and that no check was recorded with yet. -/
def Fresh (a : Attempt) : Prop := a.status = .inProgress ∧ a.checks = 0 ∧ a.bestScore = none

inductive Step (s : Session) : Operation → Reply → Session → Prop where
  | begun {op : Operation} {active : ActiveChallenge} (fresh : Fresh active.attempt)
      (begins : op.isCheck = false) (known : op.starts = true ∨ s.active ≠ none) :
      Step s op .begun ⟨some active⟩
  | idle {op : Operation} (nothing : s.active = none) (waits : op.starts = false) :
      Step s op (.refused .noActiveChallenge) s
  | closed {op : Operation} {active : ActiveChallenge} (held : s.active = some active)
      (completed : active.attempt.status = .completed) (checks : op.isCheck = true) :
      Step s op (.refused (.attemptClosed active.attempt.id)) s
  | degraded {op : Operation} {active : ActiveChallenge} {verdict : QuickCheck.Verdict}
      (held : s.active = some active) (uncompleted : active.attempt.status ≠ .completed)
      (checks : op.isCheck = true) : Step s op (.checked (.degraded verdict)) s
  | recorded {build : Run (Except Failure Validator)} {runner : Runner} {now : Timestamp}
      {w w' : World} {active : ActiveChallenge} {validator : Validator} {submission : Submission}
      {result : Validation} {attempt : Attempt} (held : s.active = some active)
      (uncompleted : active.attempt.status ≠ .completed)
      (validated : result = ((validator.validate runner now submission).run w').1)
      (record : active.attempt.record now result.passed result.score = .ok attempt) :
      Step s (.check build runner now w) (.checked (.full result (.ofValidation result)))
        ⟨some { active with attempt }⟩

theorem open_idle {s : Session} (nothing : s.active = none) :
    s.open? = .error .noActiveChallenge := by
  simp only [open?, nothing]

theorem open_closed {s : Session} {active : ActiveChallenge} (held : s.active = some active)
    (completed : active.attempt.status = .completed) :
    s.open? = .error (.attemptClosed active.attempt.id) := by
  simp only [open?, held, Attempt.isCompleted, completed, decide_true, if_true]

theorem open_active {s : Session} {active : ActiveChallenge} (held : s.active = some active)
    (uncompleted : active.attempt.status ≠ .completed) : s.open? = .ok active := by
  simp only [open?, held, Attempt.isCompleted, uncompleted, decide_false, Bool.false_eq_true,
    if_false]

/-- Where no attempt is open, a check touches nothing and builds nothing. -/
theorem check_refused {s : Session} {e : Failure} (refused : s.open? = .error e)
    (build : Run (Except Failure Validator)) (runner : Runner) (now : Timestamp) (w : World) :
    (s.checkBuilding build runner now).run w = ((.error e, s), w) := by
  unfold checkBuilding
  rw [refused]
  rfl

/-- With an attempt that is not completed a check can always be recorded. -/
theorem record_ok {a : Attempt} (uncompleted : a.status ≠ .completed) (now : Timestamp)
    (passed : Bool) (score : Nat) :
    ∃ a', a.record now passed score = .ok a' ∧ a'.checks = a.checks + 1 ∧
      a'.bestScore = some (Attempt.best score a.bestScore) ∧
      a'.status = if passed then .completed else .inProgress :=
  ⟨_, Attempt.record_open uncompleted now passed score, rfl, rfl, rfl⟩

/-- A check of what is read: in full with the validator that is built, or quickly if none can be
built. -/
def checkOf (reading : Run Submission) (build : Run (Except Failure Validator)) (runner : Runner)
    (now : Timestamp) : Run CheckOutcome := do
  let submission ← reading
  match ← build with
  | .ok validator =>
    let result ← validator.validate runner now submission
    return .full result (.ofValidation result)
  | .error e =>
    Run.warn Log.Target.session "validator unavailable, using simplified check"
      [("error", .shown e.message)]
    return .degraded (QuickCheck.check submission.category submission.content)

section Open
variable {s : Session} {active : ActiveChallenge} {w w' : World}

/-- With a validator, a check of an open attempt is answered by its result, which is recorded. -/
theorem checkBuilding_recorded (held : s.active = some active)
    (uncompleted : active.attempt.status ≠ .completed) (build : Run (Except Failure Validator))
    {v : Validator} (built : build.run ((submission active).run w).2 = (.ok v, w'))
    (runner : Runner) (now : Timestamp) {result : Validation} {after : World}
    (validated : (v.validate runner now ((submission active).run w).1).run w' = (result, after)) :
    ∃ attempt, active.attempt.record now result.passed result.score = .ok attempt ∧
      (s.checkBuilding build runner now).run w =
        ((.ok (.full result (.ofValidation result)), ⟨some { active with attempt }⟩), after) := by
  obtain ⟨attempt, record, -⟩ := record_ok uncompleted now result.passed result.score
  refine ⟨attempt, record, ?_⟩
  unfold checkBuilding
  rw [open_active held uncompleted]
  simp only [Run.run_bind, built, validated, record]
  rfl

/-- Without one, it is answered by the verdict of the quick check, and nothing is recorded. -/
theorem checkBuilding_unrecorded (held : s.active = some active)
    (uncompleted : active.attempt.status ≠ .completed) (build : Run (Except Failure Validator))
    {e : Failure} (built : build.run ((submission active).run w).2 = (.error e, w'))
    (runner : Runner) (now : Timestamp) : ∃ after, World.Same w' after ∧
      (s.checkBuilding build runner now).run w = ((.ok (.degraded (QuickCheck.check
        ((submission active).run w).1.category ((submission active).run w).1.content)), s),
        after) := by
  unfold checkBuilding
  rw [open_active held uncompleted]
  simp only [Run.run_bind, built]
  refine ⟨_, ?_, rfl⟩
  exact ⟨rfl, rfl, rfl⟩

/-- With an attempt that is not completed, a check is a check of what the session reads. -/
theorem checkBuilding_open (held : s.active = some active)
    (uncompleted : active.attempt.status ≠ .completed) (build : Run (Except Failure Validator))
    (runner : Runner) (now : Timestamp) (w : World) :
    ((s.checkBuilding build runner now).run w).1.1 =
        .ok ((checkOf (submission active) build runner now).run w).1 ∧
      ((s.checkBuilding build runner now).run w).2 =
        ((checkOf (submission active) build runner now).run w).2 := by
  unfold checkOf
  simp only [Run.run_bind]
  cases built : build.run ((submission active).run w).2 with
  | mk validator? w' =>
    cases validator? with
    | error e =>
      unfold checkBuilding
      rw [open_active held uncompleted]
      simp only [Run.run_bind, built]
      exact ⟨rfl, rfl⟩
    | ok validator =>
      obtain ⟨_, -, ran⟩ := checkBuilding_recorded held uncompleted build built runner now rfl
      rw [ran]
      exact ⟨rfl, rfl⟩

/-- With a validator, a check of an open attempt is answered by its result. -/
theorem checkBuilding_full (held : s.active = some active)
    (uncompleted : active.attempt.status ≠ .completed) (build : Run (Except Failure Validator))
    {v : Validator} (built : build.run ((submission active).run w).2 = (.ok v, w'))
    (runner : Runner) (now : Timestamp) :
    ((s.checkBuilding build runner now).run w).1.1 = .ok (.full
        ((v.validate runner now ((submission active).run w).1).run w').1
        (.ofValidation ((v.validate runner now ((submission active).run w).1).run w').1)) ∧
      ((s.checkBuilding build runner now).run w).2 =
        ((v.validate runner now ((submission active).run w).1).run w').2 := by
  obtain ⟨_, -, ran⟩ := checkBuilding_recorded held uncompleted build built runner now rfl
  rw [ran]
  exact ⟨rfl, rfl⟩

/-- Without one, it is answered by the verdict of the quick check. -/
theorem checkBuilding_degraded (held : s.active = some active)
    (uncompleted : active.attempt.status ≠ .completed) (build : Run (Except Failure Validator))
    {e : Failure} (built : build.run ((submission active).run w).2 = (.error e, w'))
    (runner : Runner) (now : Timestamp) :
    ((s.checkBuilding build runner now).run w).1.1 = .ok (.degraded (QuickCheck.check
        ((submission active).run w).1.category ((submission active).run w).1.content)) ∧
      World.Same w' ((s.checkBuilding build runner now).run w).2 := by
  obtain ⟨_, same, ran⟩ := checkBuilding_unrecorded held uncompleted build built runner now
  rw [ran]
  exact ⟨rfl, same⟩

end Open

theorem check_step (s : Session) (build : Run (Except Failure Validator)) (runner : Runner)
    (now : Timestamp) (w : World) :
    Step s (.check build runner now w) (s.perform (.check build runner now w)).1
      (s.perform (.check build runner now w)).2 := by
  cases held : s.active with
  | none =>
    rw [perform, check_refused (open_idle held)]
    exact .idle held rfl
  | some active =>
    by_cases completed : active.attempt.status = .completed
    · rw [perform, check_refused (open_closed held completed)]
      exact .closed held completed rfl
    · cases built : build.run ((submission active).run w).2 with
      | mk validator? w' =>
        cases validator? with
        | error e =>
          obtain ⟨_, -, ran⟩ := checkBuilding_unrecorded held completed build built runner now
          rw [perform, ran]
          exact .degraded held completed rfl
        | ok validator =>
          obtain ⟨attempt, record, ran⟩ :=
            checkBuilding_recorded held completed build built runner now rfl
          rw [perform, ran]
          exact .recorded held completed rfl record

theorem perform_step (s : Session) (op : Operation) :
    Step s op (s.perform op).1 (s.perform op).2 := by
  cases op with
  | start => exact .begun ⟨rfl, rfl, rfl⟩ rfl (Or.inl rfl)
  | startChallenge => exact .begun ⟨rfl, rfl, rfl⟩ rfl (Or.inl rfl)
  | restart id now =>
    unfold perform restart
    cases held : s.active with
    | none => exact .idle held rfl
    | some active => exact .begun ⟨rfl, rfl, rfl⟩ rfl (Or.inr (by simp [held]))
  | check build runner now w => exact check_step s build runner now w

end FixGrader.Session
