import FixGrader.Proofs.Session.Run
/-!
# What the history of a session tells

The attempt of a session can be told from the exchanges alone: its number of checks, its best score
and whether it is completed follow from the results since the last start or restart.
-/
namespace FixGrader.Session

/-- The results that were recorded since the last start or restart, the last one first. -/
def recorded : List Exchange → List Validation
  | [] => []
  | ⟨_, .begun⟩ :: _ => []
  | ⟨_, .checked (.full result _)⟩ :: past => result :: recorded past
  | ⟨_, .checked (.degraded _)⟩ :: past => recorded past
  | ⟨_, .refused _⟩ :: past => recorded past

/-- An attempt that is as the results tell which were recorded with it, the last one first. -/
structure Told (results : List Validation) (a : Attempt) : Prop where
  underWay : a.status = .inProgress ∨ a.status = .completed
  checks : a.checks = results.length
  best : a.bestScore = (results.map (·.score)).max?
  completed : a.status = .completed ↔ ∃ last, results.head? = some last ∧ last.passed = true

theorem Told.of_fresh {a : Attempt} (fresh : Fresh a) : Told [] a where
  underWay := Or.inl fresh.1
  checks := fresh.2.1
  best := fresh.2.2
  completed := by
    rw [fresh.1]
    simp

theorem Told.of_recorded {results : List Validation} {a a' : Attempt} (told : Told results a)
    (uncompleted : a.status ≠ .completed) {now : Timestamp} {result : Validation}
    (record : a.record now result.passed result.score = .ok a') : Told (result :: results) a' := by
  obtain ⟨recorded', same, checks, best, status⟩ :=
    record_ok uncompleted now result.passed result.score
  rw [record] at same
  cases same
  constructor
  · rw [status]
    cases result.passed
    · exact Or.inl rfl
    · exact Or.inr rfl
  · rw [checks, told.checks]
    rfl
  · rw [best, told.best]
    exact Attempt.best_max? _ _
  · rw [status]
    cases passed : result.passed <;> simp [passed]

theorem told_step {past : List Exchange} {s s' : Session}
    (told : ∀ active, s.active = some active → Told (recorded past) active.attempt)
    {op : Operation} {reply : Reply} (step : Step s op reply s') :
    ∀ active, s'.active = some active → Told (recorded (⟨op, reply⟩ :: past)) active.attempt := by
  intro active' held'
  cases step with
  | begun fresh =>
    cases held'
    exact .of_fresh fresh
  | idle nothing =>
    rw [nothing] at held'
    cases held'
  | closed => exact told active' held'
  | degraded => exact told active' held'
  | recorded held uncompleted _ record =>
    cases held'
    exact (told _ held).of_recorded uncompleted record

theorem told_run (operations : List Operation) :
    ∀ active, (run operations).2.active = some active →
      Told (recorded (run operations).1) active.attempt := by
  refine run_induction (P := fun past s =>
    ∀ active, s.active = some active → Told (recorded past) active.attempt) ?_ ?_
  · intro active held
    cases held
  · intro past s op _ told
    exact told_step told (perform_step s op)

/-- Only a start makes a challenge active, and nothing makes it inactive. -/
theorem active_step {s s' : Session} {op : Operation} {reply : Reply} (step : Step s op reply s') :
    s'.active = none ↔ s.active = none ∧ op.starts = false := by
  cases step with
  | begun _ _ known =>
    constructor
    · intro idle
      cases idle
    · rintro ⟨idle, waits⟩
      rcases known with starts | active
      · rw [waits] at starts
        cases starts
      · exact absurd idle active
  | idle nothing waits => exact ⟨fun _ => ⟨nothing, waits⟩, fun _ => nothing⟩
  | closed held => simp [held]
  | degraded held => simp [held]
  | recorded held => simp [held]

theorem run_idle_iff (operations : List Operation) :
    (run operations).2.active = none ↔ ∀ op ∈ operations, op.starts = false := by
  induction operations using List.reverseRecOn with
  | nil => simp [run, resume, new]
  | append_singleton operations op ih =>
    rw [run_concat, active_step (perform_step _ op), ih]
    simp [or_imp, forall_and]

theorem idle_reply_iff {s s' : Session} {op : Operation} {reply : Reply}
    (step : Step s op reply s') (waits : op.starts = false) :
    reply = .refused .noActiveChallenge ↔ s.active = none := by
  cases step with
  | begun _ _ known =>
    have active : s.active ≠ none := by simpa [waits] using known
    simp [active]
  | idle nothing => simp [nothing]
  | closed held => simp [held]
  | degraded held => simp [held]
  | recorded held => simp [held]

/-- An operation that is refused, or answered by a quick check, leaves the session alone. -/
theorem unchanged_step {s s' : Session} {op : Operation} {reply : Reply} (step : Step s op reply s')
    (unrecorded : (∃ e, reply = .refused e) ∨ ∃ verdict, reply = .checked (.degraded verdict)) :
    s' = s := by
  cases step with
  | begun => simp at unrecorded
  | recorded => simp at unrecorded
  | idle => rfl
  | closed => rfl
  | degraded => rfl

/-- Once the attempt is completed, checks are refused and leave everything as it is. -/
theorem resume_closed {s : Session} {active : ActiveChallenge} (held : s.active = some active)
    (completed : active.attempt.status = .completed) (past : List Exchange)
    {later : List Operation} (checks : ∀ op ∈ later, op.isCheck = true) :
    resume (past, s) later =
      (later.reverse.map (⟨·, .refused (.attemptClosed active.attempt.id)⟩) ++ past, s) := by
  induction later generalizing past with
  | nil => rfl
  | cons op later ih =>
    have first := checks op List.mem_cons_self
    have answer : s.perform op = (.refused (.attemptClosed active.attempt.id), s) := by
      cases op with
      | check build runner now w =>
        rw [perform, check_refused (open_closed held completed)]
        rfl
      | start => cases first
      | startChallenge => cases first
      | restart => cases first
    have rest := ih (⟨op, .refused (.attemptClosed active.attempt.id)⟩ :: past)
      (fun op' listed => checks op' (List.mem_cons_of_mem op listed))
    rw [resume, List.foldl_cons, answer]
    rw [resume] at rest
    rw [rest]
    simp

/-- For every run of operations, whatever the builders, the runners and the files do: only before
the first start is there no active challenge; the attempt is as the results since the last start or
restart tell; a completed one stays closed, with nothing built and nothing read; and what is refused
or only quickly checked changes nothing. -/
theorem run_history (operations : List Operation) :
    (∀ op : Operation, op.starts = false →
      (((run operations).2.perform op).1 = .refused .noActiveChallenge ↔
        ∀ op' ∈ operations, op'.starts = false)) ∧
    (∀ active, (run operations).2.active = some active →
      (active.attempt.status = .inProgress ∨ active.attempt.status = .completed) ∧
      active.attempt.checks = (recorded (run operations).1).length ∧
      active.attempt.bestScore = ((recorded (run operations).1).map (·.score)).max? ∧
      (active.attempt.status = .completed ↔
        ∃ last, (recorded (run operations).1).head? = some last ∧ last.passed = true) ∧
      (active.attempt.status = .completed →
        (∀ build runner now w, ((run operations).2.checkBuilding build runner now).run w =
          ((.error (.attemptClosed active.attempt.id), (run operations).2), w)) ∧
        ∀ later : List Operation, (∀ op ∈ later, op.isCheck = true) →
          run (operations ++ later) =
            (later.reverse.map (⟨·, .refused (.attemptClosed active.attempt.id)⟩) ++
              (run operations).1, (run operations).2)) ∧
      (active.attempt.status ≠ .completed → ∀ now passed score,
        ∃ attempt, active.attempt.record now passed score = .ok attempt)) ∧
    (∀ op : Operation, ((∃ e, ((run operations).2.perform op).1 = .refused e) ∨
        ∃ verdict, ((run operations).2.perform op).1 = .checked (.degraded verdict)) →
      ((run operations).2.perform op).2 = (run operations).2) := by
  refine ⟨?_, ?_, ?_⟩
  · intro op waits
    rw [idle_reply_iff (perform_step _ op) waits]
    exact run_idle_iff operations
  · intro active held
    obtain ⟨underWay, checks, best, completed⟩ := told_run operations active held
    refine ⟨underWay, checks, best, completed, ?_, ?_⟩
    · intro done
      constructor
      · exact check_refused (open_closed held done)
      · intro later checks
        rw [run_append]
        exact resume_closed held done _ checks
    · intro uncompleted now passed score
      obtain ⟨attempt, record, -⟩ := record_ok uncompleted now passed score
      exact ⟨attempt, record⟩
  · intro op unrecorded
    exact unchanged_step (perform_step _ op) unrecorded

end FixGrader.Session
