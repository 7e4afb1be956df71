import FixGrader.Proofs.Lint.Repetition
import FixGrader.Proofs.Validation.Course
/-!
# Validating again

A validation that is made again in the files which the first one left comes to the same result, and
leaves these files as they are. It is enough that the answer of a tool hangs on its call only, and
that the doubles of the manifest are read back when they are printed.
-/
namespace FixGrader

/-- On these files the step yields a value and leaves some files, whatever was called and noted
before. -/
def Run.Gives {α : Type} (x : Run α) (d : Disk) (a : α) (d' : Disk) : Prop :=
  ∀ w : World, w.disk = d → (x.run w).1 = a ∧ (x.run w).2.disk = d'

/-- A runner that answers each call in one way, whatever went before, and writes no file. -/
def Runner.Answers (runner : Runner) (reply : Invocation → Except Tool.Failure Tool.Output) : Prop :=
  ∀ calls disk i, (runner calls disk i).result = reply i ∧ (runner calls disk i).disk = disk

namespace Run.Gives
variable {α β : Type}

theorem pure (a : α) (d : Disk) : Gives (Pure.pure a) d a d := by
  intro w files
  exact ⟨rfl, files⟩

theorem bind {x : Run α} {f : α → Run β} {a : α} {b : β} {d d' d'' : Disk} (hx : Gives x d a d')
    (hf : Gives (f a) d' b d'') : Gives (x >>= f) d b d'' := by
  intro w files
  obtain ⟨value, files'⟩ := hx w files
  rw [run_bind, value]
  exact hf _ files'

theorem of_same {x : Run α} {a : α} {d : Disk}
    (h : ∀ w : World, w.disk = d → (x.run w).1 = a ∧ World.Same w (x.run w).2) : Gives x d a d := by
  intro w files
  obtain ⟨value, same⟩ := h w files
  exact ⟨value, same.1.trans files⟩

end Run.Gives

section Answers
variable {runner : Runner} {reply : Invocation → Except Tool.Failure Tool.Output}

theorem Runner.Answers.call (answers : runner.Answers reply) (i : Invocation) (d : Disk) :
    (runner.call i).Gives d (reply i) d := by
  intro w files
  obtain ⟨result, kept⟩ := answers w.calls w.disk i
  exact ⟨result, kept.trans files⟩

theorem Runner.Answers.probe (answers : runner.Answers reply) (program : String) (timeout : Nat) :
    ∃ found, ∀ d, (runner.probe program timeout).Gives d found d := by
  cases answer : reply (.probe program timeout) with
  | error failure =>
    refine ⟨.error failure, fun d => (answers.call _ d).bind ?_⟩
    rw [answer]
    exact .pure _ d
  | ok output =>
    refine ⟨if output.success then .ok () else .error (.unavailable program),
      fun d => (answers.call _ d).bind ?_⟩
    rw [answer]
    exact .pure _ d

/-- A program is asked for its version and then called for a report. -/
theorem Runner.Answers.inquire {α : Type} (answers : runner.Answers reply) (program : String)
    (timeout : Nat) (i : Invocation) (read : Tool.Output → Except Tool.Failure α) :
    ∃ found, ∀ d, (runner.inquire program timeout i read).Gives d found d := by
  obtain ⟨found, probed⟩ := answers.probe program timeout
  cases found with
  | error failure => exact ⟨.error failure, fun d => (probed d).bind (.pure _ d)⟩
  | ok =>
    have called := answers.call i
    cases answer : reply i with
    | error failure =>
      rw [answer] at called
      exact ⟨.error failure, fun d => (probed d).bind ((called d).bind (.pure _ d))⟩
    | ok output =>
      rw [answer] at called
      exact ⟨read output, fun d => (probed d).bind ((called d).bind (.pure _ d))⟩

theorem LintStage.report_gives (answers : runner.Answers reply) (settings : ToolSettings)
    (ws : Workspace) : ∃ found, ∀ d, (report runner settings ws).Gives d found d :=
  answers.inquire settings.npx (settings.probeSeconds * 1000) (Lint.invocation settings ws)
    fun output => Lint.readReport output.stdout

theorem AuditStage.report_gives (answers : runner.Answers reply) (settings : ToolSettings)
    (ws : Workspace) : ∃ found, ∀ d, (report runner settings ws).Gives d found d :=
  answers.inquire settings.npm (settings.probeSeconds * 1000) (Audit.invocation settings ws)
    fun output => Audit.readReport output.stdout

/-- On files where the linter is not called the outcome is settled; otherwise it is the same
everywhere. -/
theorem LintStage.run_gives (answers : runner.Answers reply) (settings : ToolSettings)
    (ws : Option Workspace) : ∃ called, ∀ d o d', decision settings ws d = (o, d') →
      (run runner settings ws).Gives d (o.getD called) d' := by
  cases ws with
  | none =>
    refine ⟨default, fun d o d' decided w files => ?_⟩
    subst files
    cases o with
    | none =>
      obtain ⟨_, _, absent, _⟩ := decision_none decided
      cases absent
    | some o =>
      obtain ⟨value, same⟩ := run_settled runner decided
      exact ⟨value, same.1⟩
  | some ws =>
    obtain ⟨found, reported⟩ := report_gives answers settings ws
    refine ⟨outcomeOfReport found, fun d o d' decided w files => ?_⟩
    subst files
    cases o with
    | none =>
      obtain ⟨_, w', same, before, value, after⟩ := run_called runner decided
      cases same
      obtain ⟨result, kept⟩ := reported d' w' before.1
      rw [value, result]
      exact ⟨rfl, after.1.trans kept⟩
    | some o =>
      obtain ⟨value, same⟩ := run_settled runner decided
      exact ⟨value, same.1⟩

theorem LintStage.decision_again {settings : ToolSettings} {ws : Option Workspace} {d d' : Disk}
    {o : Option StageOutcome}
    (reprints : ∀ ws', ws = some ws' → Lint.Setup.Reprints d ws'.root)
    (h : decision settings ws d = (o, d')) : decision settings ws d' = (o, d') := by
  cases lint : settings.lint with
  | false =>
    rw [decision_disabled lint] at h ⊢
    cases h
    rfl
  | true =>
    cases ws with
    | none =>
      rw [decision_idle lint] at h ⊢
      cases h
      rfl
    | some ws =>
      rcases prepared : Lint.Setup.ensure d ws.root with ⟨result, disk⟩
      have again := Lint.Setup.ensure_again (reprints ws rfl) prepared
      cases result with
      | error e =>
        rw [decision_unprepared lint prepared] at h
        cases h
        exact decision_unprepared lint again
      | ok setup =>
        rw [decision_prepared lint prepared] at h
        cases h
        exact decision_prepared lint again

theorem AuditStage.run_gives (answers : runner.Answers reply) (settings : ToolSettings)
    (ws : Option Workspace) (d : Disk) :
    ∃ found, (run runner settings ws).Gives d found d := by
  rcases decided : decision settings ws d with e | _ | o
  · refine ⟨.error e, .of_same fun w files => ?_⟩
    subst files
    exact run_broken runner decided
  · cases ws with
    | none => cases decided
    | some ws =>
      obtain ⟨found, reported⟩ := report_gives answers settings ws
      refine ⟨.ok (outcomeOfReport found), fun w files => ?_⟩
      subst files
      obtain ⟨_, same, value, after⟩ := run_called runner decided
      cases same
      obtain ⟨result, kept⟩ := reported w.disk w rfl
      rw [value, result]
      exact ⟨rfl, after.1.trans kept⟩
  · refine ⟨.ok o, .of_same fun w files => ?_⟩
    subst files
    exact run_settled runner decided

end Answers

namespace Validator

theorem noteStage_gives (o : StageOutcome) (d : Disk) : (noteStage o).Gives d () d :=
  .of_same fun w _ => ⟨rfl, noteStage_same o w⟩

theorem noteResult_gives (abort : Option FileError) (result : Validation) (d : Disk) :
    (noteResult abort result).Gives d () d :=
  .of_same fun w _ => ⟨rfl, noteResult_same abort result w⟩

/-- The stages gather the same in the files that they left. -/
theorem stages_again {runner : Runner} {reply : Invocation → Except Tool.Failure Tool.Output}
    (answers : runner.Answers reply) (v : Validator) (s : Submission) {d : Disk}
    (reprints : ∀ ws, Workspace.resolve s.workspace s.files = some ws →
      Lint.Setup.Reprints d ws.root) :
    ∃ found d', (v.stages runner s).Gives d found d' ∧ (v.stages runner s).Gives d' found d' := by
  obtain ⟨called, lint⟩ :=
    LintStage.run_gives answers v.tools (Workspace.resolve s.workspace s.files)
  rcases decided : LintStage.decision v.tools (Workspace.resolve s.workspace s.files) d with ⟨o, d'⟩
  obtain ⟨found, audit⟩ :=
    AuditStage.run_gives answers v.tools (Workspace.resolve s.workspace s.files) d'
  have again := LintStage.decision_again reprints decided
  refine ⟨gathered (PatternStage.outcome v.registry s.category s.content) (o.getD called) found, d',
    ?_⟩
  have course : ∀ before, LintStage.decision v.tools (Workspace.resolve s.workspace s.files) before =
      (o, d') → (v.stages runner s).Gives before
        (gathered (PatternStage.outcome v.registry s.category s.content) (o.getD called) found) d' := by
    intro before decided
    refine .bind (.of_same fun w _ => PatternStage.run_eq v.registry s.category s.content w) ?_
    refine (noteStage_gives _ before).bind ?_
    refine (lint before o d' decided).bind ?_
    refine (noteStage_gives _ d').bind ?_
    refine audit.bind ?_
    cases found with
    | error e => exact .pure _ d'
    | ok outcome => exact (noteStage_gives outcome d').bind (.pure _ d')
  exact ⟨course d decided, course d' again⟩

theorem validate_gives {v : Validator} {runner : Runner} {s : Submission} {d d' : Disk}
    {found : List StageOutcome × Option FileError} (stages : (v.stages runner s).Gives d found d')
    (now : Timestamp) :
    (v.validate runner now s).Gives d (.ofOutcomes s found.1 found.2 now) d' := by
  refine stages.bind ?_
  exact (noteResult_gives _ _ d').bind (.pure _ d')

end Validator

/-- Validating again in the files that a validation left gives the same result, but for its time,
and leaves the files alone. -/
theorem validate_again (v : Validator) (runner : Runner)
    (reply : Invocation → Except Tool.Failure Tool.Output) (now now' : Timestamp) (s : Submission)
    (w w' : World) (answers : runner.Answers reply)
    (reprints : ∀ ws, Workspace.resolve s.workspace s.files = some ws →
      Lint.Setup.Reprints w.disk ws.root)
    (left : w'.disk = ((v.validate runner now s).run w).2.disk) :
    ((v.validate runner now' s).run w').1 =
        { ((v.validate runner now s).run w).1 with validatedAt := now' } ∧
      ((v.validate runner now' s).run w').2.disk = w'.disk := by
  obtain ⟨found, d', first, second⟩ := Validator.stages_again answers v s reprints
  obtain ⟨result, files⟩ := Validator.validate_gives first now w rfl
  obtain ⟨result', files'⟩ := Validator.validate_gives second now' w' (left.trans files)
  constructor
  · rw [result, result']
    rfl
  · rw [files', left, files]

def listedWorkspace : World :=
  .ofDisk ⟨[(["w"], .directory true), (["w", "package.json"],
    .file (Text.toBytes "\x7b\"dependencies\": \x7b\"a\": \"1\"\x7d, \"ratio\": 0.5\x7d") true true
      false)], []⟩

theorem listedWorkspace_reprints : Lint.Setup.Reprints listedWorkspace.disk ⟨"/w"⟩ :=
  Lint.Setup.reprints_of_numbers [.real (.finite false (2 ^ 52) (-53))] (by decide +kernel)
    (by decide)

def quietTools : Runner := .answering fun _ => .ok ⟨some 0, "[]", ""⟩

def ruleless : Validator := ⟨⟨[], .empty, "xss"⟩, .standard⟩

def listedSubmission : Submission := ⟨"challenge", "xss", [⟨"/w/a.js"⟩], "", some ⟨"/w"⟩⟩

def validatedWorkspace : World :=
  ((ruleless.validate quietTools ⟨0, 0, 0⟩ listedSubmission).run listedWorkspace).2

theorem validate_again_listed :
    (Lint.Setup.ensure listedWorkspace.disk ⟨"/w"⟩).1.toOption = some ⟨true, false, true⟩ ∧
    ((ruleless.validate quietTools ⟨0, 1, 0⟩ listedSubmission).run validatedWorkspace).1 =
      { ((ruleless.validate quietTools ⟨0, 0, 0⟩ listedSubmission).run listedWorkspace).1 with
        validatedAt := ⟨0, 1, 0⟩ } ∧
    ((ruleless.validate quietTools ⟨0, 1, 0⟩ listedSubmission).run validatedWorkspace).2.disk =
      validatedWorkspace.disk := by
  refine ⟨by decide +kernel, ?_⟩
  refine validate_again ruleless quietTools (fun _ => .ok ⟨some 0, "[]", ""⟩) ⟨0, 0, 0⟩ ⟨0, 1, 0⟩
    listedSubmission listedWorkspace validatedWorkspace ?_ ?_ ?_
  · intro calls disk i
    exact ⟨rfl, rfl⟩
  · intro ws resolved
    cases resolved
    exact listedWorkspace_reprints
  · rw [validatedWorkspace]

end FixGrader
