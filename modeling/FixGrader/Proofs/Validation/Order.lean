import FixGrader.Proofs.Lint.Declarations
import FixGrader.Proofs.Validation.Files
import FixGrader.Proofs.Validation.Idempotence
/-!
# The order of the tool stages

The lint stage may create or rewrite the very manifest that the audit stage looks at. Even so the
outcome of neither stage hangs on which of them goes first, if the answer of a tool hangs on its call
only.
-/
namespace FixGrader

/-- Outcomes that agree in all but the wording of their checks. -/
structure StageOutcome.Agrees (o o' : StageOutcome) : Prop where
  points : o'.points = o.points
  passed : o'.check.passed = o.check.passed
  isPartial : o'.check.isPartial = o.check.isPartial
  issues : o'.issues = o.issues
  recommendations : o'.recommendations = o.recommendations

theorem StageOutcome.Agrees.refl (o : StageOutcome) : o.Agrees o := ⟨rfl, rfl, rfl, rfl, rfl⟩

theorem Runner.Answers.writesNothing {runner : Runner}
    {reply : Invocation → Except Tool.Failure Tool.Output} (answers : runner.Answers reply) :
    runner.WritesNothing :=
  fun calls disk i => (answers calls disk i).2

namespace AuditStage

/-- Both runs of the stage end with the same error, or in outcomes that agree. -/
def Agree : Except FileError StageOutcome → Except FileError StageOutcome → Prop
  | .error e, .error e' => e' = e
  | .ok o, .ok o' => o.Agrees o'
  | _, _ => False

theorem Agree.refl (result : Except FileError StageOutcome) : Agree result result := by
  cases result with
  | error e => exact rfl
  | ok o => exact StageOutcome.Agrees.refl o

/-- There is nothing to audit in either case, only for different reasons. -/
theorem fullOutcome_agrees (message message' : String) :
    (fullOutcome message).Agrees (fullOutcome message') := ⟨rfl, rfl, rfl, rfl, rfl⟩

section Decision
variable {settings : ToolSettings} {ws : Workspace} {d d' : Disk}

/-- What a manifest that can be read leads to. -/
theorem decision_read {text : String} {manifest : Json} (read : d.readText ws.manifest = .ok text)
    (parsed : Json.ofText text = .ok manifest) : decision settings (some ws) d =
      if Manifest.declaresDependencies manifest then
        if settings.audit then .ok none
        else .ok (some (partialOutcome "dependency audit is disabled in configuration"))
      else .ok (some (fullOutcome "No runtime dependencies declared")) := by
  have there := Lint.Setup.exists_of_readText read
  simp only [decision, there, read, parsed, if_true]

theorem decision_absent (absent : d.exists? ws.manifest = false) :
    decision settings (some ws) d = .ok (some (fullOutcome "No dependency manifest found")) := by
  simp only [decision, absent, Bool.false_eq_true, if_false]

theorem decision_congr (there : d'.exists? ws.manifest = d.exists? ws.manifest)
    (text : d'.readText ws.manifest = d.readText ws.manifest) :
    decision settings (some ws) d' = decision settings (some ws) d := by
  unfold decision
  dsimp only
  rw [there, text]

/-- A preparation leaves the decision alone, but for a manifest that it created. -/
theorem decision_prepared {result : Except Lint.Setup.Error Lint.Setup}
    (h : Lint.Setup.ensure d ws.root = (result, d')) :
    decision settings (some ws) d' = decision settings (some ws) d ∨
      decision settings (some ws) d = .ok (some (fullOutcome "No dependency manifest found")) ∧
        decision settings (some ws) d' =
          .ok (some (fullOutcome "No runtime dependencies declared")) := by
  obtain ⟨text, there⟩ | ⟨members, created, dependencies, read, development, text⟩ :=
    Lint.Setup.ensure_manifest h
  · exact Or.inl (decision_congr there text)
  · obtain ⟨manifest, parsed, declares⟩ := Lint.Setup.completedText_declares read development
    have after : decision settings (some ws) d' = _ := decision_read text parsed
    obtain ⟨-, old, found, parsedOld⟩ | ⟨-, absent, rfl⟩ := Lint.Setup.manifestMembers_ok read
    · refine Or.inl ?_
      rw [after, declares]
      exact (decision_read found parsedOld).symm
    · refine Or.inr ⟨decision_absent absent, ?_⟩
      rw [after, declares, Manifest.declares_initial]
      rfl

end Decision

/-- So does the lint stage. -/
theorem decision_linted (settings : ToolSettings) (ws : Option Workspace) (d : Disk) :
    decision settings ws (LintStage.decision settings ws d).2 = decision settings ws d ∨
      decision settings ws d = .ok (some (fullOutcome "No dependency manifest found")) ∧
        decision settings ws (LintStage.decision settings ws d).2 =
          .ok (some (fullOutcome "No runtime dependencies declared")) := by
  cases ws with
  | none => exact Or.inl rfl
  | some ws =>
    rcases LintStage.decision_files settings ws d with kept | prepared
    · exact Or.inl (by rw [kept])
    · rw [prepared]
      exact decision_prepared rfl

section Runs
variable {runner : Runner} {reply : Invocation → Except Tool.Failure Tool.Output}
variable {settings : ToolSettings} {ws : Option Workspace} {w w' : World}

/-- What the stage yields hangs on its decision only. -/
theorem run_congr (answers : runner.Answers reply)
    (same : decision settings ws w'.disk = decision settings ws w.disk) :
    ((run runner settings ws).run w').1 = ((run runner settings ws).run w).1 := by
  rcases decided : decision settings ws w.disk with e | _ | o
  · rw [(run_broken runner decided).1, (run_broken runner (same.trans decided)).1]
  · obtain ⟨ws', there, value, -⟩ := run_called runner decided
    obtain ⟨ws'', there', value', -⟩ := run_called runner (same.trans decided)
    rw [there] at there'
    cases there'
    obtain ⟨found, reported⟩ := report_gives answers settings ws'
    rw [value, value', (reported w.disk w rfl).1, (reported w'.disk w' rfl).1]
  · rw [(run_settled runner decided).1, (run_settled runner (same.trans decided)).1]

/-- After the lint stage the audit stage yields the same as before it. -/
theorem run_linted (answers : runner.Answers reply)
    (linted : w'.disk = (LintStage.decision settings ws w.disk).2) :
    Agree ((run runner settings ws).run w).1 ((run runner settings ws).run w').1 := by
  obtain same | ⟨before, after⟩ := decision_linted settings ws w.disk
  · rw [← linted] at same
    rw [run_congr answers same]
    exact .refl _
  · rw [(run_settled runner before).1, (run_settled runner (linted ▸ after)).1]
    exact fullOutcome_agrees _ _

end Runs

end AuditStage

/-- The tool stages yield the same in either order. The audit stage ends with the same error, or in
outcomes that agree, in the files that were there first and in those that the lint stage left; the
lint stage comes to the same outcome in the files that the audit stage left. -/
theorem toolStages_either_order (runner : Runner)
    (reply : Invocation → Except Tool.Failure Tool.Output) (settings : ToolSettings)
    (ws : Option Workspace) (w linted audited : World) (answers : runner.Answers reply)
    (lintFirst : linted.disk = ((LintStage.run runner settings ws).run w).2.disk)
    (auditFirst : audited.disk = ((AuditStage.run runner settings ws).run w).2.disk) :
    AuditStage.Agree ((AuditStage.run runner settings ws).run w).1
        ((AuditStage.run runner settings ws).run linted).1 ∧
      ((LintStage.run runner settings ws).run audited).1 =
        ((LintStage.run runner settings ws).run w).1 := by
  constructor
  · rw [LintStage.run_files answers.writesNothing] at lintFirst
    exact AuditStage.run_linted answers lintFirst
  · rw [AuditStage.run_files answers.writesNothing] at auditFirst
    obtain ⟨called, gives⟩ := LintStage.run_gives answers settings ws
    rcases decided : LintStage.decision settings ws w.disk with ⟨o, d⟩
    have first := gives w.disk o d decided
    rw [(first audited auditFirst).1, (first w rfl).1]

def listedFiles : Option Workspace := some ⟨⟨"/w"⟩, [⟨"/w/a.js"⟩]⟩

def lintedWorkspace : World :=
  ((LintStage.run quietTools .standard listedFiles).run listedWorkspace).2

def auditedWorkspace : World :=
  ((AuditStage.run quietTools .standard listedFiles).run listedWorkspace).2

theorem toolStages_either_order_listed :
    (Lint.Setup.ensure listedWorkspace.disk ⟨"/w"⟩).1.toOption = some ⟨true, false, true⟩ ∧
      AuditStage.Agree ((AuditStage.run quietTools .standard listedFiles).run listedWorkspace).1
        ((AuditStage.run quietTools .standard listedFiles).run lintedWorkspace).1 ∧
      ((LintStage.run quietTools .standard listedFiles).run auditedWorkspace).1 =
        ((LintStage.run quietTools .standard listedFiles).run listedWorkspace).1 := by
  refine ⟨by decide +kernel, ?_⟩
  refine toolStages_either_order quietTools (fun _ => .ok ⟨some 0, "[]", ""⟩) .standard listedFiles
    listedWorkspace lintedWorkspace auditedWorkspace ?_ ?_ ?_
  · intro calls disk i
    exact ⟨rfl, rfl⟩
  · rw [lintedWorkspace]
  · rw [auditedWorkspace]

end FixGrader
