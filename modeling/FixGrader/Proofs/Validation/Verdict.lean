import FixGrader.Proofs.Grading.Points
import FixGrader.Proofs.Session.Run
import FixGrader.Proofs.Validation.Files
/-!
# The verdict of a validation

A result passes exactly from 80 points on, also where the validation was broken off: what breaks it
off is a manifest that cannot be read, and for such a manifest the linter is never called.
-/
namespace FixGrader

/-- Where the linter was called, the manifest can be read afterwards. -/
theorem LintStage.readable_of_called {runner : Runner} {settings : ToolSettings}
    {ws : Option Workspace} {w : World} {disk : Disk}
    (spared : ∀ ws', ws = some ws' → runner.Spares ws'.manifest)
    (called : decision settings ws w.disk = (none, disk)) :
    ∃ ws' text, ws = some ws' ∧
      ((run runner settings ws).run w).2.disk.readText ws'.manifest = .ok text := by
  obtain ⟨ws', w', rfl, before, -, after⟩ := run_called runner called
  obtain ⟨ws'', setup, same, -, prepared⟩ := decision_none called
  cases same
  obtain ⟨text, read⟩ := Lint.Setup.readable_of_ensure prepared
  refine ⟨ws', text, rfl, ?_⟩
  rw [after.1]
  refine report_keeps ((spared ws' rfl).preserves text) settings ws' ?_
  rw [before.1]
  exact read

namespace Validator

/-- A validation that is broken off had its lint stage carried out in part. -/
theorem broken_off {v : Validator} {runner : Runner} {s : Submission} {w : World}
    (spared : ∀ ws, Workspace.resolve s.workspace s.files = some ws → runner.Spares ws.manifest)
    {outcomes : List StageOutcome} {e : FileError}
    (h : ((v.stages runner s).run w).1 = (outcomes, some e)) :
    ∃ reason, outcomes = [PatternStage.outcome v.registry s.category s.content,
      LintStage.partialOutcome reason] := by
  obtain ⟨w₁, w₂, -, between, together, -⟩ := stages_run v runner s w
  rw [h] at together
  obtain ⟨both, broken⟩ := gathered_broken together.symm
  obtain ⟨ws, resolved, -, unread⟩ :=
    AuditStage.decision_error (AuditStage.decision_of_broken broken)
  rcases decided : LintStage.decision v.tools (Workspace.resolve s.workspace s.files) w₁.disk with
    ⟨_ | o, disk⟩
  · obtain ⟨ws', text, resolved', read⟩ := LintStage.readable_of_called spared decided
    rw [resolved] at resolved'
    cases resolved'
    rw [between.1, read] at unread
    cases unread
  · obtain ⟨reason, rfl⟩ := LintStage.decision_some decided
    refine ⟨reason, ?_⟩
    rw [both, (LintStage.run_settled runner decided).1]

end Validator

theorem PatternStage.outcome_points (r : Registry) (category source : String) :
    ∃ n ∈ [0, 20, 40, 42, 60], (outcome r category source).points = .ofNat n := by
  unfold outcome
  split
  · exact ⟨0, by simp, rfl⟩
  · rename_i found _
    obtain ⟨n, listed, points⟩ := Scoring.patternPoints_mem
      (countMatches found.ruleSet.vulnerable source.toList.toArray)
      (countMatches found.ruleSet.secure source.toList.toArray)
    obtain ⟨recommendations, same⟩ := outcomeWith_eq category found source.toList.toArray
    refine ⟨n, listed, ?_⟩
    rw [same]
    exact points

/-- What the points of a result say about its verdict. -/
structure Validation.Decided (r : Validation) : Prop where
  passed_iff : r.passed = true ↔ 80 ≤ r.score
  grade_iff : 80 ≤ r.score ↔ Grade.bPlus.rank ≤ r.grade.rank
  brokenOff : (∃ c, r.checks.getLast? = some c ∧ c.name = errorCheckName) →
    r.subScores.lint = some (.ofHalves 25) ∧ r.subScores.audit = none ∧ r.score ≤ 73

theorem Validation.decided_broken (s : Submission) {pattern : StageOutcome} {n : Nat}
    (stage : pattern.stage = .pattern) (listed : n ∈ [0, 20, 40, 42, 60])
    (points : pattern.points = .ofNat n) (reason : String) (e : FileError) (now : Timestamp) :
    (ofOutcomes s [pattern, LintStage.partialOutcome reason] (some e) now).Decided := by
  have scores : SubScores.ofOutcomes [pattern, LintStage.partialOutcome reason] =
      ⟨some (.ofNat n), some Scoring.lintPartialPoints, none⟩ := by
    rw [← points]
    exact SubScores.ofOutcomes_eq none stage rfl fun o ended => nomatch ended
  have least : Scoring.total [.ofNat n, Scoring.lintPartialPoints] ≤ 73 :=
    Scoring.total_degraded_le n listed
  have score : (ofOutcomes s [pattern, LintStage.partialOutcome reason] (some e) now).score ≤ 73 := by
    rw [ofOutcomes, scores]
    exact least
  constructor
  · constructor
    · intro passed
      cases passed
    · intro enough
      omega
  · exact (Grade.bPlus_le_forScore_iff _).symm
  · intro _
    refine ⟨?_, ?_, score⟩
    · rw [ofOutcomes, scores]
      exact congrArg some (by decide)
    · rw [ofOutcomes, scores]

theorem Validation.decided_complete (s : Submission) {pattern lint audit : StageOutcome}
    (name : audit.check.name = AuditStage.checkName) (now : Timestamp) :
    (ofOutcomes s [pattern, lint, audit] none now).Decided := by
  constructor
  · exact Scoring.isPassing_iff _
  · exact (Grade.bPlus_le_forScore_iff _).symm
  · rintro ⟨c, last, named⟩
    have same : audit.check = c := Option.some.inj last
    rw [← same, name] at named
    exact absurd named (by decide)

theorem Validator.validate_decided {v : Validator} {runner : Runner} {s : Submission}
    (spared : ∀ ws, Workspace.resolve s.workspace s.files = some ws → runner.Spares ws.manifest)
    (now : Timestamp) (w : World) : ((v.validate runner now s).run w).1.Decided := by
  rw [(validate_run v runner s w now).1]
  rcases stages : ((v.stages runner s).run w).1 with ⟨outcomes, _ | e⟩
  · obtain ⟨w₁, w₂, -, -, together, -⟩ := stages_run v runner s w
    rw [stages] at together
    obtain ⟨audit, rfl, done⟩ := gathered_complete together.symm
    exact Validation.decided_complete s (AuditStage.run_name done) now
  · obtain ⟨reason, rfl⟩ := broken_off spared stages
    obtain ⟨n, listed, points⟩ := PatternStage.outcome_points v.registry s.category s.content
    exact Validation.decided_broken s (PatternStage.outcome_stage ..) listed points reason e now

/-- An attempt that is completed exactly if its best score is one that passes. -/
def Attempt.Earned (a : Attempt) : Prop :=
  a.status = .completed ↔ ∃ best, a.bestScore = some best ∧ 80 ≤ best

theorem Attempt.Earned.record {a a' : Attempt} (earned : a.Earned)
    (uncompleted : a.status ≠ .completed) {now : Timestamp} {passed : Bool} {score : Nat}
    (passes : passed = true ↔ 80 ≤ score) (record : a.record now passed score = .ok a') :
    a'.Earned := by
  obtain ⟨recorded, same, -, best, status⟩ := Session.record_ok uncompleted now passed score
  rw [record] at same
  cases same
  have below : ∀ b, a.bestScore = some b → b < 80 := by
    intro b held
    by_contra enough
    exact uncompleted (earned.mpr ⟨b, held, by omega⟩)
  have reached : 80 ≤ Attempt.best score a.bestScore ↔ 80 ≤ score := by
    cases held : a.bestScore with
    | none => exact Iff.rfl
    | some b =>
      have := below b held
      simp only [Attempt.best]
      omega
  rw [Earned, status, best]
  constructor
  · intro completed
    cases passed
    · cases completed
    · exact ⟨_, rfl, reached.mpr (passes.mp rfl)⟩
  · rintro ⟨b, same, enough⟩
    cases same
    rw [passes.mpr (reached.mp enough)]
    rfl

theorem Session.earned_step {s s' : Session} {op : Operation} {reply : Reply}
    (step : Step s op reply s')
    (spares : ∀ build runner now w, op = .check build runner now w →
      ∀ ws : Workspace, runner.Spares ws.manifest)
    (earned : ∀ active, s.active = some active → active.attempt.Earned) :
    ∀ active, s'.active = some active → active.attempt.Earned := by
  intro active' held'
  cases step with
  | begun fresh =>
    cases held'
    rw [Attempt.Earned, fresh.1, fresh.2.2]
    simp
  | idle => exact earned active' held'
  | closed => exact earned active' held'
  | degraded => exact earned active' held'
  | recorded held uncompleted validated record =>
    cases held'
    refine (earned _ held).record uncompleted ?_ record
    rw [validated]
    exact (Validator.validate_decided (fun ws _ => spares _ _ _ _ rfl ws) _ _).passed_iff

/-- Every result passes exactly from 80 points on, which is from the grade B+ on, and one that was
broken off stays below; so that an attempt is completed exactly if its best score reaches 80. The
runners must leave the manifest alone. -/
theorem passed_iff_enough :
    (∀ (v : Validator) (runner : Runner) (now : Timestamp) (s : Submission) (w : World),
      (∀ ws, Workspace.resolve s.workspace s.files = some ws → runner.Spares ws.manifest) →
      ((v.validate runner now s).run w).1.Decided) ∧
    ∀ operations : List Session.Operation,
      (∀ build runner now w, .check build runner now w ∈ operations →
        ∀ ws : Workspace, runner.Spares ws.manifest) →
      ∀ active, (Session.run operations).2.active = some active →
        (active.attempt.status = .completed ↔
          ∃ best, active.attempt.bestScore = some best ∧ 80 ≤ best) := by
  constructor
  · intro v runner now s w spared
    exact Validator.validate_decided spared now w
  · intro operations spares
    refine Session.run_induction (P := fun _ s =>
      ∀ active, s.active = some active → active.attempt.Earned) ?_ ?_
    · intro active held
      cases held
    · intro past s op listed earned
      refine Session.earned_step (Session.perform_step s op) ?_ earned
      rintro build runner now w rfl
      exact spares build runner now w listed

def oneIdiom : Registry :=
  ⟨[⟨"xss", "XSS Prevention", none, [], [⟨"text", "text only", Regex.known "textContent"⟩]⟩],
    .empty, "xss"⟩

def unreadableManifest : World :=
  .ofDisk ⟨[(["w"], .directory true), (["w", "package.json"], .directory true)], []⟩

def solvedWorkspace : World :=
  .ofDisk ⟨[(["w"], .directory true),
    (["w", "a.js"], .file (Text.toBytes "e.textContent = s") true true false)], []⟩

def solvedOnce : List Session.Operation := [
  .start "attempt" default "challenge" "xss" (some ⟨"/w"⟩) [⟨"/w/a.js"⟩],
  .check (pure (.ok ⟨oneIdiom, { ToolSettings.standard with lint := false }⟩)) (.scripted []) default
    solvedWorkspace]

theorem passed_iff_enough_reached :
    (∃ c, ((Validator.validate ⟨oneIdiom, .standard⟩ (.scripted []) default
      ⟨"challenge", "xss", [⟨"/w/a.js"⟩], "", some ⟨"/w"⟩⟩).run unreadableManifest).1.checks.getLast? =
        some c ∧ c.name = Validation.errorCheckName) ∧
    ((Validator.validate ⟨oneIdiom, .standard⟩ (.scripted []) default
      ⟨"challenge", "xss", [⟨"/w/a.js"⟩], "", some ⟨"/w"⟩⟩).run unreadableManifest).1.score ≤ 73 ∧
    ∀ active, (Session.run solvedOnce).2.active = some active →
      active.attempt.status = .completed := by
  have broken : ∃ c, ((Validator.validate ⟨oneIdiom, .standard⟩ (.scripted []) default
      ⟨"challenge", "xss", [⟨"/w/a.js"⟩], "", some ⟨"/w"⟩⟩).run unreadableManifest).1.checks.getLast? =
        some c ∧ c.name = Validation.errorCheckName :=
    ⟨_, rfl, rfl⟩
  refine ⟨broken, ?_, ?_⟩
  · have decided := passed_iff_enough.1 ⟨oneIdiom, .standard⟩ (.scripted []) default
      ⟨"challenge", "xss", [⟨"/w/a.js"⟩], "", some ⟨"/w"⟩⟩ unreadableManifest
      (fun _ _ _ _ _ => ⟨rfl, rfl⟩)
    exact (decided.brokenOff broken).2.2
  · intro active held
    have best : (Session.run solvedOnce).2.active.map (·.attempt.bestScore) = some (some 88) := by
      decide +kernel
    rw [held] at best
    refine (passed_iff_enough.2 solvedOnce ?_ active held).mpr ⟨88, Option.some.inj best, by omega⟩
    intro build runner now w listed ws
    simp only [solvedOnce, List.mem_cons, List.not_mem_nil, or_false, reduceCtorEq, false_or,
      Session.Operation.check.injEq] at listed
    obtain ⟨-, rfl, -, -⟩ := listed
    exact fun _ _ _ => ⟨rfl, rfl⟩

end FixGrader
