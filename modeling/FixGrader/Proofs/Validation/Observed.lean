import FixGrader.Proofs.Lint.Findings
import FixGrader.Proofs.Validation.Idempotence
/-!
# What is observed of a tool

A program that is asked for its version has to end well; a linter and an auditor have to write a
report. Nothing else is looked at, neither how a linter or an auditor ends nor what a version is
called: two runners that agree on what is observed lead to the same result, by the same calls and
with the same files left behind.
-/
namespace FixGrader

/-- Worlds with the same files and the same calls so far. -/
structure World.Alike (w w' : World) : Prop where
  disk : w'.disk = w.disk
  calls : w'.calls = w.calls

theorem World.Same.alike {w w' : World} (same : World.Same w w') : World.Alike w w' :=
  ⟨same.disk, same.calls⟩

theorem World.Alike.rfl {w : World} : World.Alike w w := ⟨Eq.refl _, Eq.refl _⟩

theorem World.Alike.symm {w w' : World} (h : World.Alike w w') : World.Alike w' w :=
  ⟨h.1.symm, h.2.symm⟩

theorem World.Alike.trans {w₁ w₂ w₃ : World} (h : World.Alike w₁ w₂) (h' : World.Alike w₂ w₃) :
    World.Alike w₁ w₃ := ⟨h'.1.trans h.1, h'.2.trans h.2⟩

/-- From worlds with the same files and calls, two runs come to related values, and to worlds with the
same files and calls. -/
def Run.Related {α β : Type} (R : α → β → Prop) (x : Run α) (y : Run β) : Prop :=
  ∀ w w' : World, World.Alike w w' →
    R (x.run w).1 (y.run w').1 ∧ World.Alike (x.run w).2 (y.run w').2

def Run.Alike {α : Type} (x y : Run α) : Prop := Run.Related (· = ·) x y

namespace Run.Related
variable {α β γ δ : Type} {R : α → β → Prop} {S : γ → δ → Prop} {x : Run α} {y : Run β}

theorem bind {f : α → Run γ} {g : β → Run δ} (first : Related R x y)
    (next : ∀ a b, R a b → Related S (f a) (g b)) : Related S (x >>= f) (y >>= g) := by
  intro w w' same
  obtain ⟨related, same'⟩ := first w w' same
  exact next _ _ related _ _ same'

end Run.Related

namespace Run.Alike
variable {α β : Type}

theorem pure (a : α) : Alike (Pure.pure a) (Pure.pure a) := fun _ _ same => ⟨rfl, same⟩

theorem bind {x y : Run α} {f g : α → Run β} (first : Alike x y)
    (next : ∀ a, Alike (f a) (g a)) : Alike (x >>= f) (y >>= g) := by
  refine Related.bind first ?_
  rintro a _ rfl
  exact next a

theorem note (level : Log.Level) (target message : String) (fields : List (String × Log.Value)) :
    Alike (Run.note level target message fields) (Run.note level target message fields) :=
  fun _ _ same => ⟨rfl, same.disk, same.calls⟩

theorem disk : Alike Run.disk Run.disk := fun _ _ same => ⟨same.disk.symm, same⟩

theorem setDisk (d : Disk) : Alike (Run.setDisk d) (Run.setDisk d) :=
  fun _ _ same => ⟨rfl, rfl, same.calls⟩

end Run.Alike

/-- Two answers of a tool that differ in nothing that is observed: it fails in the same way, or it
ends both times, with an output of which the same is observed. -/
inductive Tool.AnswersAlike {α : Type} (observed : Tool.Output → α) :
    Except Tool.Failure Tool.Output → Except Tool.Failure Tool.Output → Prop where
  | failed (failure : Tool.Failure) : AnswersAlike observed (.error failure) (.error failure)
  | ended {output output' : Tool.Output} (same : observed output = observed output') :
      AnswersAlike observed (.ok output) (.ok output')

theorem Tool.AnswersAlike.refl {α : Type} (observed : Tool.Output → α)
    (answer : Except Tool.Failure Tool.Output) : AnswersAlike observed answer answer := by
  cases answer with
  | error failure => exact .failed failure
  | ok output => exact .ended rfl

/-- Two runners that leave the same files, and whose answers agree on what is observed: whether a
program that is asked for its version ends well, and what a linter or an auditor writes to its
standard output. -/
structure Runner.ObservedAlike (runner runner' : Runner) (settings : ToolSettings) : Prop where
  disk : ∀ calls disk i, (runner' calls disk i).disk = (runner calls disk i).disk
  probes : ∀ calls disk, ∀ program ∈ [settings.npx, settings.npm],
    Tool.AnswersAlike Tool.Output.success
      (runner calls disk (.probe program (settings.probeSeconds * 1000))).result
      (runner' calls disk (.probe program (settings.probeSeconds * 1000))).result
  lint : ∀ calls disk ws, Tool.AnswersAlike Tool.Output.stdout
    (runner calls disk (Lint.invocation settings ws)).result
    (runner' calls disk (Lint.invocation settings ws)).result
  audit : ∀ calls disk ws, Tool.AnswersAlike Tool.Output.stdout
    (runner calls disk (Audit.invocation settings ws)).result
    (runner' calls disk (Audit.invocation settings ws)).result

theorem Runner.ObservedAlike.refl (runner : Runner) (settings : ToolSettings) :
    ObservedAlike runner runner settings where
  disk _ _ _ := rfl
  probes _ _ _ _ := .refl _ _
  lint _ _ _ := .refl _ _
  audit _ _ _ := .refl _ _

section Calls
variable {runner runner' : Runner}
  (disk : ∀ calls disk i, (runner' calls disk i).disk = (runner calls disk i).disk)

include disk

theorem Runner.call_related {α : Type} {observed : Tool.Output → α} {i : Invocation}
    (alike : ∀ calls disk,
      Tool.AnswersAlike observed (runner calls disk i).result (runner' calls disk i).result) :
    Run.Related (Tool.AnswersAlike observed) (runner.call i) (runner'.call i) := by
  rintro w ⟨d, calls, events, ends⟩ ⟨rfl, rfl⟩
  exact ⟨alike w.calls w.disk, disk w.calls w.disk i, rfl⟩

theorem Runner.probe_alike {program : String} {timeout : Nat}
    (alike : ∀ calls disk, Tool.AnswersAlike Tool.Output.success
      (runner calls disk (.probe program timeout)).result
      (runner' calls disk (.probe program timeout)).result) :
    Run.Alike (runner.probe program timeout) (runner'.probe program timeout) := by
  refine (call_related disk alike).bind ?_
  rintro _ _ (failure | @⟨output, output', same⟩)
  · exact Run.Alike.pure _
  · dsimp only
    rw [same]
    exact Run.Alike.pure _

/-- A program is asked for its version and then called for a report. -/
theorem Runner.inquire_alike {α : Type} {program : String} {timeout : Nat} {i : Invocation}
    (probed : ∀ calls disk, Tool.AnswersAlike Tool.Output.success
      (runner calls disk (.probe program timeout)).result
      (runner' calls disk (.probe program timeout)).result)
    (called : ∀ calls disk, Tool.AnswersAlike Tool.Output.stdout
      (runner calls disk i).result (runner' calls disk i).result)
    (read : String → Except Tool.Failure α) :
    Run.Alike (runner.inquire program timeout i fun output => read output.stdout)
      (runner'.inquire program timeout i fun output => read output.stdout) := by
  refine (probe_alike disk probed).bind fun
    | .error _ => Run.Alike.pure _
    | .ok () => (call_related disk called).bind ?_
  rintro _ _ (failure | @⟨output, output', same⟩)
  · exact Run.Alike.pure _
  · dsimp only
    rw [same]
    exact Run.Alike.pure _

end Calls

open Run.Alike

theorem PatternStage.run_alike (r : Registry) (category source : String) :
    Run.Alike (run r category source) (run r category source) := by
  intro w w' same
  obtain ⟨value, kept⟩ := run_eq r category source w
  obtain ⟨value', kept'⟩ := run_eq r category source w'
  refine ⟨value.trans value'.symm, ?_⟩
  exact kept.alike.symm.trans (same.trans kept'.alike)

section Stages
variable {runner runner' : Runner} {settings : ToolSettings}
  (alike : runner.ObservedAlike runner' settings)

include alike

theorem LintStage.report_alike (ws : Workspace) :
    Run.Alike (report runner settings ws) (report runner' settings ws) :=
  Runner.inquire_alike alike.disk
    (fun calls disk => alike.probes calls disk settings.npx (by simp))
    (fun calls disk => alike.lint calls disk ws) Lint.readReport

theorem LintStage.run_alike (ws : Option Workspace) :
    Run.Alike (run runner settings ws) (run runner' settings ws) := by
  unfold run
  split
  · exact pure _
  · cases ws with
    | none => exact pure _
    | some ws =>
      refine bind (disk.bind fun d => (setDisk _).bind fun _ => pure _) fun prepared => ?_
      cases prepared with
      | error e => exact (note _ _ _ _).bind fun _ => pure _
      | ok setup =>
        refine (note _ _ _ _).bind fun _ => (report_alike alike ws).bind fun
          | .error _ => (note _ _ _ _).bind fun _ => pure _
          | .ok _ => (note _ _ _ _).bind fun _ => pure _

theorem AuditStage.report_alike (ws : Workspace) :
    Run.Alike (report runner settings ws) (report runner' settings ws) :=
  Runner.inquire_alike alike.disk
    (fun calls disk => alike.probes calls disk settings.npm (by simp))
    (fun calls disk => alike.audit calls disk ws) Audit.readReport

theorem AuditStage.audit_alike (ws : Workspace) :
    Run.Alike (audit runner settings ws) (audit runner' settings ws) := by
  unfold audit
  split
  · exact pure _
  · exact (report_alike alike ws).bind fun
      | .error _ => (note _ _ _ _).bind fun _ => pure _
      | .ok _ => (note _ _ _ _).bind fun _ => pure _

theorem AuditStage.run_alike (ws : Option Workspace) :
    Run.Alike (run runner settings ws) (run runner' settings ws) := by
  unfold run
  cases ws with
  | none => exact pure _
  | some ws =>
    refine disk.bind fun d => ?_
    dsimp only
    split
    · exact pure _
    · split
      · exact pure _
      · split
        · exact (note _ _ _ _).bind fun _ => pure _
        · split
          · exact (audit_alike alike ws).bind fun _ => pure _
          · exact pure _

end Stages

namespace Validator
variable {runner runner' : Runner}

theorem stages_alike {v : Validator} (alike : runner.ObservedAlike runner' v.tools)
    (s : Submission) : Run.Alike (v.stages runner s) (v.stages runner' s) :=
  (PatternStage.run_alike _ _ _).bind fun _ => (note _ _ _ _).bind fun _ =>
    (LintStage.run_alike alike _).bind fun _ => (note _ _ _ _).bind fun _ =>
      (AuditStage.run_alike alike _).bind fun
        | .error _ => pure _
        | .ok _ => (note _ _ _ _).bind fun _ => pure _

theorem noteResult_alike (abort : Option FileError) (result : Validation) :
    Run.Alike (noteResult abort result) (noteResult abort result) := by
  cases abort with
  | none => exact note _ _ _ _
  | some e => exact (note _ _ _ _).bind fun _ => note _ _ _ _

theorem validate_alike {v : Validator} (alike : runner.ObservedAlike runner' v.tools)
    (now : Timestamp) (s : Submission) :
    Run.Alike (v.validate runner now s) (v.validate runner' now s) :=
  (stages_alike alike s).bind fun _ => (noteResult_alike _ _).bind fun _ => pure _

/-- The time of a validation is only noted in its result. -/
theorem validate_later (v : Validator) (runner : Runner) (now now' : Timestamp) (s : Submission)
    (w : World) :
    ((v.validate runner now' s).run w).1 =
        { ((v.validate runner now s).run w).1 with validatedAt := now' } ∧
      World.Alike ((v.validate runner now s).run w).2 ((v.validate runner now' s).run w).2 := by
  obtain ⟨result, left⟩ := validate_run v runner s w now
  obtain ⟨result', left'⟩ := validate_run v runner s w now'
  constructor
  · rw [result, result']
    rfl
  · exact left.alike.symm.trans left'.alike

end Validator

/-- A run that looks at the files and the calls before it, but not at events. -/
def Run.Unheeding {α : Type} (x : Run α) : Prop :=
  ∀ w w' : World, World.Alike w w' →
    (x.run w').1 = (x.run w).1 ∧ World.Alike (x.run w).2 (x.run w').2

/-- The events that a run notes are for the log alone: a validation looks at none of them. -/
theorem Validator.validate_unheeding (v : Validator) (runner : Runner) (now : Timestamp)
    (s : Submission) : (v.validate runner now s).Unheeding := by
  intro w w' same
  obtain ⟨value, left⟩ := validate_alike (.refl runner v.tools) now s w w' same
  exact ⟨value.symm, left⟩

/-- Of the tools only their failures, their reports and whether they are there at all matter: with
runners that agree on these, a validation comes to the same result, but for its time, by the same
calls, and leaves the same files. -/
theorem validate_observed (v : Validator) (runner runner' : Runner) (now now' : Timestamp)
    (s : Submission) (w : World) (alike : runner.ObservedAlike runner' v.tools) :
    ((v.validate runner' now' s).run w).1 =
        { ((v.validate runner now s).run w).1 with validatedAt := now' } ∧
      World.Alike ((v.validate runner now s).run w).2 ((v.validate runner' now' s).run w).2 := by
  obtain ⟨result, left⟩ := Validator.validate_alike alike now' s w w .rfl
  obtain ⟨later, left'⟩ := Validator.validate_later v runner now now' s w
  exact ⟨result.symm.trans later, left'.trans left⟩

def calmTools (report : String) : Runner := .answering fun _ => .ok ⟨some 0, report, ""⟩

/-- Tools that write the same report and complain about it, under a version that they tell. -/
def loudTools (report : String) : Runner := .answering fun i =>
  if i.args = ["--version"] then .ok ⟨some 0, "9.1", "deprecated"⟩
  else .ok ⟨some 1, report, "1 problem"⟩

theorem loudTools_alike (report : String) (settings : ToolSettings) :
    (calmTools report).ObservedAlike (loudTools report) settings where
  disk _ _ _ := rfl
  probes _ _ _ _ := .ended rfl
  lint _ _ _ := .ended rfl
  audit _ _ _ := .ended rfl

theorem validate_observed_loud :
    ((calmTools Lint.mixedText) [] listedWorkspace.disk
      (Lint.invocation .standard ⟨⟨"/w"⟩, [⟨"/w/a.js"⟩]⟩)).result = .ok ⟨some 0, Lint.mixedText, ""⟩ ∧
    ((loudTools Lint.mixedText) [] listedWorkspace.disk
      (Lint.invocation .standard ⟨⟨"/w"⟩, [⟨"/w/a.js"⟩]⟩)).result =
        .ok ⟨some 1, Lint.mixedText, "1 problem"⟩ ∧
    (calmTools Lint.mixedText).ObservedAlike (loudTools Lint.mixedText) ruleless.tools ∧
    ((ruleless.validate (loudTools Lint.mixedText) ⟨0, 1, 0⟩ listedSubmission).run
        listedWorkspace).1 =
      { ((ruleless.validate (calmTools Lint.mixedText) ⟨0, 0, 0⟩ listedSubmission).run
        listedWorkspace).1 with validatedAt := ⟨0, 1, 0⟩ } := by
  have alike := loudTools_alike Lint.mixedText ruleless.tools
  refine ⟨rfl, rfl, alike, ?_⟩
  exact (validate_observed ruleless (calmTools Lint.mixedText) (loudTools Lint.mixedText) ⟨0, 0, 0⟩
    ⟨0, 1, 0⟩ listedSubmission listedWorkspace alike).1

end FixGrader
