import FixGrader.Proofs.Validation.Course
/-!
# What the stages do to the files

Of the stages only the lint stage writes anything, when it prepares the workspace. With tools that
write nothing themselves, the files after a validation are those that this preparation left.
-/
namespace FixGrader

namespace Runner
variable {runner : Runner} {P : Disk → Prop}

/-- A runner whose calls write no file. -/
def WritesNothing (runner : Runner) : Prop :=
  ∀ calls disk i, (runner calls disk i).disk = disk

theorem WritesNothing.preserves (silent : runner.WritesNothing) (P : Disk → Prop) :
    runner.Preserves P := by
  intro calls disk i h
  rw [silent]
  exact h

/-- What no call takes away is there after a program was asked for its version and then called. -/
theorem inquire_keeps {α : Type} (keeps : runner.Preserves P) (program : String) (timeout : Nat)
    (i : Invocation) (read : Tool.Output → Except Tool.Failure α) {w : World} (h : P w.disk) :
    P ((runner.inquire program timeout i read).run w).2.disk := by
  have probed := probe_keeps keeps program timeout h
  rw [inquire, Run.run_bind]
  split
  · exact probed
  · have called := call_keeps keeps i probed
    rw [Run.run_bind]
    split <;> exact called

end Runner

theorem Workspace.resolve_none {root : Option Path} {files : List Path} :
    resolve root files = none ↔ files = [] := by
  cases files with
  | nil => cases root <;> simp [resolve, ofFiles]
  | cons file files => cases root <;> simp [resolve, ofFiles]

theorem LintStage.decision_kept {settings : ToolSettings} {ws : Option Workspace}
    (idle : settings.lint = false ∨ ws = none) (d : Disk) : (decision settings ws d).2 = d := by
  cases lint : settings.lint with
  | false => rw [decision_disabled lint]
  | true =>
    rcases idle with off | rfl
    · rw [off] at lint
      cases lint
    · rw [decision_idle lint]

theorem LintStage.decision_files (settings : ToolSettings) (ws : Workspace) (d : Disk) :
    (decision settings (some ws) d).2 = d ∨
      (decision settings (some ws) d).2 = (Lint.Setup.ensure d ws.root).2 := by
  cases lint : settings.lint with
  | false => exact Or.inl (by rw [decision_disabled lint])
  | true =>
    refine Or.inr ?_
    rcases prepared : Lint.Setup.ensure d ws.root with ⟨_ | _, d'⟩
    · rw [decision_unprepared lint prepared]
    · rw [decision_prepared lint prepared]

section Stages
variable {runner : Runner} {P : Disk → Prop} {settings : ToolSettings} {w : World}

theorem LintStage.report_keeps (keeps : runner.Preserves P) (settings : ToolSettings)
    (ws : Workspace) (h : P w.disk) : P ((report runner settings ws).run w).2.disk :=
  Runner.inquire_keeps keeps settings.npx (settings.probeSeconds * 1000)
    (Lint.invocation settings ws) (fun output => Lint.readReport output.stdout) h

theorem AuditStage.report_keeps (keeps : runner.Preserves P) (settings : ToolSettings)
    (ws : Workspace) (h : P w.disk) : P ((report runner settings ws).run w).2.disk :=
  Runner.inquire_keeps keeps settings.npm (settings.probeSeconds * 1000)
    (Audit.invocation settings ws) (fun output => Audit.readReport output.stdout) h

/-- The lint stage leaves the files as the preparation does. -/
theorem LintStage.run_files (silent : runner.WritesNothing) (settings : ToolSettings)
    (ws : Option Workspace) (w : World) :
    ((run runner settings ws).run w).2.disk = (decision settings ws w.disk).2 := by
  rcases decided : decision settings ws w.disk with ⟨_ | o, disk⟩
  · obtain ⟨ws', w', -, before, -, after⟩ := run_called runner decided
    rw [after.1]
    exact report_keeps (silent.preserves (· = disk)) settings ws' before.1
  · exact (run_settled runner decided).2.1

theorem AuditStage.run_files (silent : runner.WritesNothing) (settings : ToolSettings)
    (ws : Option Workspace) (w : World) : ((run runner settings ws).run w).2.disk = w.disk := by
  rcases decided : decision settings ws w.disk with e | _ | o
  · exact (run_broken runner decided).2.1
  · obtain ⟨ws', -, -, after⟩ := run_called runner decided
    rw [after.1]
    exact report_keeps (silent.preserves (· = w.disk)) settings ws' rfl
  · exact (run_settled runner decided).2.1

end Stages

namespace Validator

/-- Of all that a validation does, only the preparation for the linter changes the files. -/
theorem validate_files {runner : Runner} (silent : runner.WritesNothing) (v : Validator)
    (now : Timestamp) (s : Submission) (w : World) :
    ((v.validate runner now s).run w).2.disk =
      (LintStage.decision v.tools (Workspace.resolve s.workspace s.files) w.disk).2 := by
  obtain ⟨w₁, w₂, before, between, -, after⟩ := stages_run v runner s w
  rw [(validate_run v runner s w now).2.1, after.1, AuditStage.run_files silent, between.1,
    LintStage.run_files silent, before.1]

end Validator

end FixGrader
