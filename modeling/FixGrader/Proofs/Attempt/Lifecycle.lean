import FixGrader.Challenge.Attempt
import Mathlib.Data.List.Induction
/-!
# The life of an attempt

Calls are made on an attempt one after the other. What it is at any time can be told from the checks
that it recorded so far: how many they were, how good the best one was, and whether the last one
passed, which is the only one that can have. A passed check is the end of its life; a restart begins
another one.
-/
namespace FixGrader.Attempt

inductive Call where
  | start (now : Timestamp)
  | record (now : Timestamp) (passed : Bool) (score : Nat)
  | restart (id : String) (now : Timestamp)

/-- Whether a call asks for another attempt, and nothing of this one. -/
def Call.restarts : Call → Bool
  | .restart .. => true
  | _ => false

theorem Call.eq_restart {call : Call} (restarts : call.restarts = true) :
    ∃ id now, call = .restart id now := by
  cases call with
  | restart id now => exact ⟨id, now, rfl⟩
  | start now => cases restarts
  | record now passed score => cases restarts

inductive Reply where
  | started
  | recorded (status : Status)
  | restarted (next : Attempt)
  | refused (e : Failure)

def answer (a : Attempt) : Call → Reply × Attempt
  | .start now =>
    match a.start now with
    | .ok a' => (.started, a')
    | .error e => (.refused e, a)
  | .record now passed score =>
    match a.record now passed score with
    | .ok a' => (.recorded a'.status, a')
    | .error e => (.refused e, a)
  | .restart id now => (.restarted (a.restart id now), a)

structure Exchange where
  call : Call
  reply : Reply

/-- Makes calls one after the other, and keeps what was exchanged, the last of it first. -/
def run (a : Attempt) (calls : List Call) : List Exchange × Attempt :=
  calls.foldl (fun past call =>
    (⟨call, (past.2.answer call).1⟩ :: past.1, (past.2.answer call).2)) ([], a)

theorem run_concat (a : Attempt) (calls : List Call) (call : Call) :
    a.run (calls ++ [call]) = (⟨call, ((a.run calls).2.answer call).1⟩ :: (a.run calls).1,
      ((a.run calls).2.answer call).2) := by
  simp only [run, List.foldl_append, List.foldl_cons, List.foldl_nil]

/-- What was recorded by a call that was not refused. -/
structure Recording where
  passed : Bool
  score : Nat
  deriving DecidableEq, Repr

def Exchange.recording? : Exchange → Option Recording
  | ⟨.record _ passed score, .recorded _⟩ => some ⟨passed, score⟩
  | _ => none

/-- The checks that were recorded, the last one first. -/
def recordings (past : List Exchange) : List Recording := past.filterMap Exchange.recording?

def recorded (a : Attempt) (now : Timestamp) (passed : Bool) (score : Nat) : Attempt :=
  { a with
    status := if passed then .completed else .inProgress
    startedAt := if a.status = .notStarted then some now else a.startedAt
    completedAt := if passed then some now else a.completedAt
    checks := a.checks + 1
    bestScore := some (best score a.bestScore) }

/-- A check is recorded with every attempt that is not completed. -/
theorem record_open {a : Attempt} (uncompleted : a.status ≠ .completed) (now : Timestamp)
    (passed : Bool) (score : Nat) :
    a.record now passed score = .ok (a.recorded now passed score) := by
  obtain ⟨id, challengeId, status, startedAt, completedAt, checks, bestScore⟩ := a
  cases status with
  | notStarted => cases passed <;> rfl
  | inProgress => cases passed <;> rfl
  | completed => exact absurd rfl uncompleted

theorem start_closed {a : Attempt} (completed : a.status = .completed) (now : Timestamp) :
    a.start now = .error (.attemptClosed a.id) := by
  rw [start, completed]

theorem record_closed {a : Attempt} (completed : a.status = .completed) (now : Timestamp)
    (passed : Bool) (score : Nat) : a.record now passed score = .error (.attemptClosed a.id) := by
  rw [record, start_closed completed]
  rfl

inductive Step (a : Attempt) : Call → Reply → Attempt → Prop where
  | started {now : Timestamp} (unstarted : a.status = .notStarted) :
      Step a (.start now) .started { a with status := .inProgress, startedAt := some now }
  | underWay {now : Timestamp} (begun : a.status = .inProgress) : Step a (.start now) .started a
  | recorded {now : Timestamp} {passed : Bool} {score : Nat} (uncompleted : a.status ≠ .completed) :
      Step a (.record now passed score) (.recorded (a.recorded now passed score).status)
        (a.recorded now passed score)
  | closed {call : Call} (completed : a.status = .completed) (stays : call.restarts = false) :
      Step a call (.refused (.attemptClosed a.id)) a
  | restarted {id : String} {now : Timestamp} :
      Step a (.restart id now) (.restarted (a.restart id now)) a

theorem answer_closed {a : Attempt} (completed : a.status = .completed) {call : Call}
    (stays : call.restarts = false) : a.answer call = (.refused (.attemptClosed a.id), a) := by
  cases call with
  | start now => simp only [answer, start_closed completed]
  | record now passed score => simp only [answer, record_closed completed]
  | restart id now => cases stays

theorem answer_step (a : Attempt) (call : Call) :
    Step a call (a.answer call).1 (a.answer call).2 := by
  by_cases completed : a.status = .completed
  · cases restarts : call.restarts with
    | false =>
      rw [answer_closed completed restarts]
      exact .closed completed restarts
    | true =>
      obtain ⟨id, now, rfl⟩ := Call.eq_restart restarts
      exact .restarted
  · cases call with
    | start now =>
      cases status : a.status with
      | notStarted =>
        simp only [answer, start, status]
        exact .started status
      | inProgress =>
        simp only [answer, start, status]
        exact .underWay status
      | completed => exact absurd status completed
    | record now passed score =>
      simp only [answer, record_open completed]
      exact .recorded completed
    | restart id now => exact .restarted

/-- An attempt that nothing was asked of since it was made. -/
inductive Made : Attempt → Prop where
  | new (id challengeId : String) : Made (new id challengeId)
  | restart (a : Attempt) (id : String) (now : Timestamp) : Made (a.restart id now)

/-- An attempt that is as the checks tell which it recorded, the last one first. -/
structure Told (done : List Recording) (a : Attempt) : Prop where
  started_iff : a.startedAt.isSome = true ↔ a.status ≠ .notStarted
  ended_iff : a.completedAt.isSome = true ↔ a.status = .completed
  checks_eq : a.checks = done.length
  best_eq : a.bestScore = (done.map (·.score)).max?
  completed_iff : a.status = .completed ↔ ∃ d ∈ done, d.passed = true
  /-- Only the last one can have passed. -/
  before_failed : ∀ d ∈ done.tail, d.passed = false

theorem best_max? (score : Nat) (scores : List Nat) :
    some (best score scores.max?) = (score :: scores).max? := by
  rw [List.max?_cons]
  cases scores.max? with
  | none => rfl
  | some b =>
    rw [best, Option.elim_some]
    exact congrArg some (Nat.max_comm b score)

theorem Made.told {a : Attempt} (made : Made a) : Told [] a := by
  have unpassed : ¬ ∃ d ∈ ([] : List Recording), d.passed = true := by simp
  cases made with
  | new id challengeId =>
    exact ⟨iff_of_false nofun (absurd rfl), iff_of_false nofun nofun, rfl, rfl,
      iff_of_false nofun unpassed, nofun⟩
  | restart a id now =>
    exact ⟨iff_of_true rfl nofun, iff_of_false nofun nofun, rfl, rfl, iff_of_false nofun unpassed,
      nofun⟩

namespace Told
variable {done : List Recording} {a : Attempt}

/-- Before an attempt is completed no check has passed. -/
theorem failed (told : Told done a) (uncompleted : a.status ≠ .completed) :
    ∀ d ∈ done, d.passed = false := by
  intro d listed
  refine Bool.eq_false_iff.mpr fun passed => uncompleted ?_
  exact told.completed_iff.mpr ⟨d, listed, passed⟩

theorem unended (told : Told done a) (uncompleted : a.status ≠ .completed) :
    a.completedAt = none := by
  refine Option.not_isSome_iff_eq_none.mp fun ended => uncompleted ?_
  exact told.ended_iff.mp ended

theorem start (told : Told done a) (unstarted : a.status = .notStarted) (now : Timestamp) :
    Told done { a with status := .inProgress, startedAt := some now } := by
  have uncompleted : a.status ≠ .completed := by simp [unstarted]
  have unended : a.completedAt = none := told.unended uncompleted
  have unpassed : ¬ ∃ d ∈ done, d.passed = true := fun passed =>
    uncompleted (told.completed_iff.mpr passed)
  refine ⟨iff_of_true rfl nofun, ?_, told.checks_eq, told.best_eq, ?_, told.before_failed⟩
  · exact iff_of_false (by simp [unended]) nofun
  · exact iff_of_false nofun unpassed

theorem record (told : Told done a) (uncompleted : a.status ≠ .completed) (now : Timestamp)
    (passed : Bool) (score : Nat) :
    Told (⟨passed, score⟩ :: done) (a.recorded now passed score) := by
  have failed : ∀ d ∈ done, d.passed = false := told.failed uncompleted
  have begun : (a.recorded now passed score).startedAt.isSome = true := by
    by_cases unstarted : a.status = .notStarted
    · simp [recorded, unstarted]
    · simpa [recorded, unstarted] using told.started_iff.mpr unstarted
  have best : (a.recorded now passed score).bestScore =
      ((⟨passed, score⟩ :: done : List Recording).map (·.score)).max? := by
    rw [List.map_cons, ← best_max?, ← told.best_eq]
    rfl
  cases passed with
  | false =>
    have unpassed : ¬ ∃ d ∈ (⟨false, score⟩ :: done : List Recording), d.passed = true := by
      rintro ⟨d, listed, passed⟩
      rcases List.mem_cons.mp listed with rfl | listed
      · cases passed
      · exact absurd passed (by simp [failed d listed])
    have unended : (a.recorded now false score).completedAt = none := told.unended uncompleted
    refine ⟨iff_of_true begun nofun, ?_, congrArg (· + 1) told.checks_eq, best, ?_, failed⟩
    · exact iff_of_false (by simp [unended]) nofun
    · exact iff_of_false nofun unpassed
  | true =>
    refine ⟨iff_of_true begun nofun, iff_of_true rfl rfl, congrArg (· + 1) told.checks_eq, best, ?_,
      failed⟩
    exact iff_of_true rfl ⟨⟨true, score⟩, List.mem_cons_self, rfl⟩

end Told

/-- A reply that records nothing leaves the recorded checks as they are. -/
theorem recordings_refused (call : Call) (e : Failure) (past : List Exchange) :
    recordings (⟨call, .refused e⟩ :: past) = recordings past := by
  cases call <;> rfl

/-- Each call keeps an attempt as its recorded checks tell. -/
theorem told_step {past : List Exchange} {a a' : Attempt} {call : Call} {reply : Reply}
    (told : Told (recordings past) a) (step : Step a call reply a') :
    Told (recordings (⟨call, reply⟩ :: past)) a' := by
  cases step with
  | started unstarted => exact told.start unstarted _
  | underWay => exact told
  | recorded uncompleted => exact told.record uncompleted _ _ _
  | closed =>
    rw [recordings_refused]
    exact told
  | restarted => exact told

theorem told_run {a : Attempt} (made : Made a) (calls : List Call) :
    Told (recordings (a.run calls).1) (a.run calls).2 := by
  induction calls using List.reverseRecOn with
  | nil => exact made.told
  | append_singleton calls call ih =>
    rw [run_concat]
    exact told_step ih (answer_step _ call)

/-- How far the life of an attempt has come. -/
def Status.rank : Status → Nat
  | notStarted => 0
  | inProgress => 1
  | completed => 2

theorem rank_step {a a' : Attempt} {call : Call} {reply : Reply} (step : Step a call reply a') :
    a.status.rank ≤ a'.status.rank := by
  cases step with
  | started unstarted => simp [unstarted, Status.rank]
  | underWay => exact Nat.le_refl _
  | @recorded now passed score uncompleted =>
    have before : a.status.rank ≤ 1 := by
      cases status : a.status with
      | completed => exact absurd status uncompleted
      | notStarted => decide
      | inProgress => decide
    have after : 1 ≤ (a.recorded now passed score).status.rank := by
      cases passed <;> simp [recorded, Status.rank]
    omega
  | closed => exact Nat.le_refl _
  | restarted => exact Nat.le_refl _

theorem rank_run (a : Attempt) (calls later : List Call) :
    (a.run calls).2.status.rank ≤ (a.run (calls ++ later)).2.status.rank := by
  induction later using List.reverseRecOn with
  | nil => exact Nat.le_of_eq (by rw [List.append_nil])
  | append_singleton later call ih =>
    rw [← List.append_assoc, run_concat]
    exact Nat.le_trans ih (rank_step (answer_step _ call))

/-- No call makes an attempt at another challenge of it, or gives it another name. -/
theorem names_step {a a' : Attempt} {call : Call} {reply : Reply} (step : Step a call reply a') :
    a'.id = a.id ∧ a'.challengeId = a.challengeId := by
  cases step <;> exact ⟨rfl, rfl⟩

theorem names_run (a : Attempt) (calls : List Call) :
    (a.run calls).2.id = a.id ∧ (a.run calls).2.challengeId = a.challengeId := by
  induction calls using List.reverseRecOn with
  | nil => exact ⟨rfl, rfl⟩
  | append_singleton calls call ih =>
    obtain ⟨id, challenge⟩ := names_step (answer_step (a.run calls).2 call)
    rw [run_concat]
    exact ⟨id.trans ih.1, challenge.trans ih.2⟩

/-- A call that is no restart is refused exactly if the attempt is completed. -/
theorem refused_iff {a : Attempt} {call : Call} (stays : call.restarts = false) :
    a.answer call = (.refused (.attemptClosed a.id), a) ↔ a.status = .completed := by
  constructor
  · intro refused
    have step := answer_step a call
    rw [refused] at step
    cases step with
    | closed completed => exact completed
  · exact fun completed => answer_closed completed stays

theorem run_closed {a : Attempt} {calls : List Call} (completed : (a.run calls).2.status = .completed)
    (later : List Call) : (a.run (calls ++ later)).2 = (a.run calls).2 := by
  induction later using List.reverseRecOn with
  | nil => rw [List.append_nil]
  | append_singleton later call ih =>
    rw [← List.append_assoc, run_concat, ih]
    cases restarts : call.restarts with
    | false => rw [answer_closed completed restarts]
    | true =>
      obtain ⟨id, now, rfl⟩ := Call.eq_restart restarts
      rfl

/-- For every run of calls on an attempt that was just made, whatever the scores: what the attempt is
follows from the checks that it recorded; its status never moves backwards; calls are refused exactly
once it is completed, and change nothing from then on; and a restart gives another attempt at the
same challenge, under way and without checks, and leaves this one as it is. -/
theorem run_lifecycle {a : Attempt} (made : Made a) (calls : List Call) :
    Told (recordings (a.run calls).1) (a.run calls).2 ∧
    (∀ later, (a.run calls).2.status.rank ≤ (a.run (calls ++ later)).2.status.rank) ∧
    (∀ call : Call, call.restarts = false →
      ((a.run calls).2.answer call = (.refused (.attemptClosed a.id), (a.run calls).2) ↔
        (a.run calls).2.status = .completed)) ∧
    ((a.run calls).2.status = .completed → ∀ later, (a.run (calls ++ later)).2 = (a.run calls).2) ∧
    ∀ id now, (a.run calls).2.answer (.restart id now) =
      (.restarted ⟨id, a.challengeId, .inProgress, some now, none, 0, none⟩, (a.run calls).2) := by
  obtain ⟨same, challenge⟩ := names_run a calls
  refine ⟨told_run made calls, rank_run a calls, ?_, run_closed, ?_⟩
  · intro call stays
    rw [← same]
    exact refused_iff stays
  · intro id now
    rw [← challenge]
    rfl

/-- An attempt is recorded with before it is started, fails, passes, and is closed then. -/
def passedCalls : List Call := [.record default false 55, .start default, .restart "later" default,
  .record default true 92, .record default true 100, .start default]

theorem run_lifecycle_passed :
    Made (new "first" "xss") ∧
    ((new "first" "xss").run passedCalls).2 =
      ⟨"first", "xss", .completed, some default, some default, 2, some 92⟩ ∧
    recordings ((new "first" "xss").run passedCalls).1 = [⟨true, 92⟩, ⟨false, 55⟩] ∧
    Told (recordings ((new "first" "xss").run passedCalls).1)
      ((new "first" "xss").run passedCalls).2 := by
  refine ⟨.new _ _, by decide, by decide, ?_⟩
  exact (run_lifecycle (.new "first" "xss") passedCalls).1

end FixGrader.Attempt
