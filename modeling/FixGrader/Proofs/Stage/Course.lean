import FixGrader.Proofs.Lint.Preparation
import FixGrader.Proofs.World.Steps
import FixGrader.Validation.Validator
/-!
# The course of the stages

A tool stage first decides by the files whether its tool is called at all; if it is not, the outcome
is settled. What a stage yields and leaves behind is said here by this decision and by what comes of
the call. Events are left out: no stage looks at them.
-/
namespace FixGrader

theorem PatternStage.run_eq (r : Registry) (category source : String) (w : World) :
    ((PatternStage.run r category source).run w).1 = PatternStage.outcome r category source ∧
      World.Same w ((PatternStage.run r category source).run w).2 := by
  unfold PatternStage.run PatternStage.outcome
  cases r.resolve category with
  | none => exact ⟨rfl, rfl, rfl, rfl⟩
  | some found =>
    dsimp only
    split <;> exact ⟨rfl, rfl, rfl, rfl⟩

/-- What comes of a source under some rules, whatever it recommends. -/
theorem PatternStage.outcomeWith_eq (category : String) (found : Resolution)
    (source : Array Char) : ∃ recommendations, outcomeWith category found source =
      ⟨.pattern, Scoring.patternPoints (countMatches found.ruleSet.vulnerable source)
          (countMatches found.ruleSet.secure source), Stage.pattern.full,
        checkOf category found (countMatches found.ruleSet.vulnerable source)
          (countMatches found.ruleSet.secure source),
        found.ruleSet.vulnerable.filterMap (issue? source), recommendations⟩ := by
  unfold outcomeWith
  dsimp only
  split
  · split <;> exact ⟨_, rfl⟩
  · exact ⟨_, rfl⟩

theorem PatternStage.outcomeWith_points (category : String) (found : Resolution)
    (source : Array Char) : (outcomeWith category found source).points =
      Scoring.patternPoints (countMatches found.ruleSet.vulnerable source)
        (countMatches found.ruleSet.secure source) := by
  obtain ⟨recommendations, same⟩ := outcomeWith_eq category found source
  rw [same]

theorem PatternStage.outcome_stage (r : Registry) (category source : String) :
    (outcome r category source).stage = .pattern := by
  unfold outcome
  split
  · rfl
  · rename_i found _
    obtain ⟨recommendations, same⟩ := outcomeWith_eq category found source.toList.toArray
    rw [same]

/-- An outcome that goes by the number of its issues: its points and the details of its check. -/
structure StageOutcome.Counts (o : StageOutcome) (stage : Stage) (points : Nat → Double)
    (name key : String) : Prop where
  stage_eq : o.stage = stage
  points_eq : o.points = points o.issues.length
  check : ∃ bare : Check, bare.name = name ∧
    o.check = bare.withDetails [(key, Json.ofNat o.issues.length)]

theorem Check.ofVerdict_name {good : Prop} [Decidable good] (name pass fail : String) :
    (if good then Check.pass name pass else Check.fail name fail).name = name := by
  split <;> rfl

namespace LintStage
variable {settings : ToolSettings} {w : World}

/-- The outcome where the linter is not called, and the files after the preparation. -/
def decision (settings : ToolSettings) (ws : Option Workspace) (disk : Disk) :
    Option StageOutcome × Disk :=
  if settings.lint then
    match ws with
    | none => (some (partialOutcome "no submitted files to analyse"), disk)
    | some ws =>
      match Lint.Setup.ensure disk ws.root with
      | (.error e, disk) => (some (partialOutcome ("workspace setup failed: " ++ e.message)), disk)
      | (.ok _, disk) => (none, disk)
  else (some (partialOutcome "static analysis is disabled in configuration"), disk)

/-- The outcome for what came of calling the linter. -/
def outcomeOfReport : Except Tool.Failure (List Lint.Diagnostic) → StageOutcome
  | .error failure => partialOutcome failure.message
  | .ok diagnostics => outcomeOf diagnostics

theorem decision_disabled (h : settings.lint = false) (ws : Option Workspace) (disk : Disk) :
    decision settings ws disk =
      (some (partialOutcome "static analysis is disabled in configuration"), disk) := by
  simp [decision, h]

theorem decision_idle (h : settings.lint = true) (disk : Disk) :
    decision settings none disk = (some (partialOutcome "no submitted files to analyse"), disk) := by
  simp [decision, h]

theorem decision_unprepared (h : settings.lint = true) {ws : Workspace} {disk disk' : Disk}
    {e : Lint.Setup.Error} (failed : Lint.Setup.ensure disk ws.root = (.error e, disk')) :
    decision settings (some ws) disk =
      (some (partialOutcome ("workspace setup failed: " ++ e.message)), disk') := by
  simp [decision, h, failed]

theorem decision_prepared (h : settings.lint = true) {ws : Workspace} {disk disk' : Disk}
    {setup : Lint.Setup} (prepared : Lint.Setup.ensure disk ws.root = (.ok setup, disk')) :
    decision settings (some ws) disk = (none, disk') := by
  simp [decision, h, prepared]

/-- The linter is called only in a workspace that was prepared for it. -/
theorem decision_none {ws : Option Workspace} {disk disk' : Disk}
    (h : decision settings ws disk = (none, disk')) :
    ∃ ws' setup, ws = some ws' ∧ settings.lint = true ∧
      Lint.Setup.ensure disk ws'.root = (.ok setup, disk') := by
  unfold decision at h
  split at h
  · rename_i lint
    split at h
    · cases h
    · rename_i ws'
      split at h
      · cases h
      · rename_i setup disk'' prepared
        cases h
        exact ⟨ws', setup, rfl, lint, prepared⟩
  · cases h

/-- Where the linter is not called, the stage is carried out in part. -/
theorem decision_some {ws : Option Workspace} {disk disk' : Disk} {o : StageOutcome}
    (h : decision settings ws disk = (some o, disk')) : ∃ reason, o = partialOutcome reason := by
  unfold decision at h
  split at h
  · split at h
    · cases h
      exact ⟨_, rfl⟩
    · split at h
      · cases h
        exact ⟨_, rfl⟩
      · cases h
  · cases h
    exact ⟨_, rfl⟩

theorem prepare_run (ws : Workspace) :
    (prepare ws).run w = ((Lint.Setup.ensure w.disk ws.root).1,
      { w with disk := (Lint.Setup.ensure w.disk ws.root).2 }) := rfl

theorem run_settled (runner : Runner) {ws : Option Workspace} {o : StageOutcome} {disk : Disk}
    (h : decision settings ws w.disk = (some o, disk)) :
    ((run runner settings ws).run w).1 = o ∧
      World.Same { w with disk } ((run runner settings ws).run w).2 := by
  unfold decision at h
  unfold run
  split at h
  · rename_i lint
    rw [lint]
    split at h
    · cases h
      exact ⟨rfl, rfl, rfl, rfl⟩
    · rename_i ws
      split at h
      · rename_i e disk' failed
        cases h
        simp only [Bool.not_true, Bool.false_eq_true, if_false, Run.run_bind, prepare_run, failed]
        exact ⟨rfl, rfl, rfl, rfl⟩
      · cases h
  · rename_i lint
    rw [Bool.eq_false_iff.mpr lint]
    cases h
    exact ⟨rfl, rfl, rfl, rfl⟩

theorem run_called (runner : Runner) {ws : Option Workspace} {disk : Disk}
    (h : decision settings ws w.disk = (none, disk)) :
    ∃ ws' w', ws = some ws' ∧ World.Same { w with disk } w' ∧
      ((run runner settings ws).run w).1 =
        outcomeOfReport ((report runner settings ws').run w').1 ∧
      World.Same ((report runner settings ws').run w').2
        ((run runner settings ws).run w).2 := by
  obtain ⟨ws', setup, rfl, lint, prepared⟩ := decision_none h
  rw [run, lint]
  simp only [Bool.not_true, Bool.false_eq_true, if_false, Run.run_bind, prepare_run, prepared]
  refine ⟨ws', ((Run.debug Log.Target.lint "linter setup"
    [("report", .shown setup.text), ("root", .shown ws'.root.text)]).run { w with disk }).2,
    rfl, ⟨rfl, rfl, rfl⟩, ?_⟩
  generalize (report runner settings ws').run _ = reported
  obtain ⟨_ | _, w'⟩ := reported <;> exact ⟨rfl, rfl, rfl, rfl⟩

/-- Whatever happens, the stage ends in one of two ways: in part, or with what was reported. -/
theorem run_cases (runner : Runner) (settings : ToolSettings) (ws : Option Workspace) (w : World) :
    (∃ reason, ((run runner settings ws).run w).1 = partialOutcome reason) ∨
      ∃ diagnostics, ((run runner settings ws).run w).1 = outcomeOf diagnostics := by
  rcases decided : decision settings ws w.disk with ⟨_ | o, disk⟩
  · obtain ⟨ws', w', -, -, value, -⟩ := run_called runner decided
    rw [value]
    cases ((report runner settings ws').run w').1 with
    | error failure => exact Or.inl ⟨failure.message, rfl⟩
    | ok diagnostics => exact Or.inr ⟨diagnostics, rfl⟩
  · obtain ⟨reason, rfl⟩ := decision_some decided
    exact Or.inl ⟨reason, (run_settled runner decided).1⟩

theorem outcomeOf_counts (diagnostics : List Lint.Diagnostic) :
    (outcomeOf diagnostics).Counts .lint Scoring.lintPoints checkName "issue_count" := by
  unfold outcomeOf
  dsimp only
  split <;> exact ⟨rfl, rfl, _, Check.ofVerdict_name .., rfl⟩

theorem run_stage (runner : Runner) (settings : ToolSettings) (ws : Option Workspace) (w : World) :
    ((run runner settings ws).run w).1.stage = .lint := by
  obtain ⟨reason, ended⟩ | ⟨diagnostics, ended⟩ := run_cases runner settings ws w
  · rw [ended]
    rfl
  · rw [ended]
    exact (outcomeOf_counts diagnostics).stage_eq

end LintStage

namespace AuditStage
variable {settings : ToolSettings} {w : World}

/-- The outcome where the auditor is not called, and the error that breaks the validation off. -/
def decision (settings : ToolSettings) (ws : Option Workspace) (disk : Disk) :
    Except FileError (Option StageOutcome) :=
  match ws with
  | none => .ok (some (fullOutcome "No dependency manifest found"))
  | some ws =>
    if disk.exists? ws.manifest then
      match disk.readText ws.manifest with
      | .error e => .error e
      | .ok text =>
        match Json.ofText text with
        | .error e =>
          .ok (some (partialOutcome (Failure.manifest ws.manifest.text e.message).message))
        | .ok manifest =>
          if Manifest.declaresDependencies manifest then
            if settings.audit then .ok none
            else .ok (some (partialOutcome "dependency audit is disabled in configuration"))
          else .ok (some (fullOutcome "No runtime dependencies declared"))
    else .ok (some (fullOutcome "No dependency manifest found"))

/-- The outcome for what came of calling the auditor. -/
def outcomeOfReport : Except Tool.Failure (List Audit.Package) → StageOutcome
  | .error failure => partialOutcome failure.message
  | .ok packages => outcomeOf packages

/-- Only a manifest that is there and cannot be read breaks a validation off. -/
theorem decision_error {ws : Option Workspace} {disk : Disk} {e : FileError}
    (h : decision settings ws disk = .error e) :
    ∃ ws', ws = some ws' ∧ disk.exists? ws'.manifest = true ∧
      disk.readText ws'.manifest = .error e := by
  unfold decision at h
  split at h
  · cases h
  · rename_i ws'
    split at h
    · rename_i there
      split at h
      · rename_i unread
        cases h
        exact ⟨ws', rfl, there, unread⟩
      · split at h
        · cases h
        · split at h
          · split at h <;> cases h
          · cases h
    · cases h

/-- Where the auditor is not called, there is nothing to audit, or it is done in part. -/
theorem decision_some {ws : Option Workspace} {disk : Disk} {o : StageOutcome}
    (h : decision settings ws disk = .ok (some o)) :
    (∃ message, o = fullOutcome message) ∨ ∃ reason, o = partialOutcome reason := by
  unfold decision at h
  split at h
  · cases h
    exact Or.inl ⟨_, rfl⟩
  · split at h
    · split at h
      · cases h
      · split at h
        · cases h
          exact Or.inr ⟨_, rfl⟩
        · split at h
          · split at h
            · cases h
            · cases h
              exact Or.inr ⟨_, rfl⟩
          · cases h
            exact Or.inl ⟨_, rfl⟩
    · cases h
      exact Or.inl ⟨_, rfl⟩

/-- What the stage yields and leaves by its decision. -/
def Follows (runner : Runner) (settings : ToolSettings) (ws : Option Workspace) (w : World) :
    Except FileError (Option StageOutcome) → Prop
  | .error e => ((run runner settings ws).run w).1 = .error e ∧
      World.Same w ((run runner settings ws).run w).2
  | .ok (some o) => ((run runner settings ws).run w).1 = .ok o ∧
      World.Same w ((run runner settings ws).run w).2
  | .ok none => ∃ ws', ws = some ws' ∧
      ((run runner settings ws).run w).1 =
        .ok (outcomeOfReport ((report runner settings ws').run w).1) ∧
      World.Same ((report runner settings ws').run w).2 ((run runner settings ws).run w).2

theorem audit_called (runner : Runner) (on : settings.audit = true) (ws : Workspace) :
    ((audit runner settings ws).run w).1 =
        outcomeOfReport ((report runner settings ws).run w).1 ∧
      World.Same ((report runner settings ws).run w).2 ((audit runner settings ws).run w).2 := by
  simp only [audit, on, Bool.not_true, Bool.false_eq_true, if_false, Run.run_bind]
  generalize (report runner settings ws).run w = reported
  obtain ⟨_ | _, w'⟩ := reported <;> exact ⟨rfl, rfl, rfl, rfl⟩

theorem run_follows (runner : Runner) (settings : ToolSettings) (ws : Option Workspace) (w : World) :
    Follows runner settings ws w (decision settings ws w.disk) := by
  cases ws with
  | none => exact ⟨rfl, rfl, rfl, rfl⟩
  | some ws =>
    cases there : w.disk.exists? (ws.root.join ⟨Manifest.fileName⟩) with
    | false =>
      simp only [Follows, decision, run, Workspace.manifest, Run.run_bind, Run.run_disk, there,
        Bool.not_false, Bool.false_eq_true, if_true, if_false]
      exact ⟨rfl, rfl, rfl, rfl⟩
    | true =>
      cases read : w.disk.readText (ws.root.join ⟨Manifest.fileName⟩) with
      | error e =>
        simp only [Follows, decision, run, Workspace.manifest, Run.run_bind, Run.run_disk, there,
          read, Bool.not_true, Bool.false_eq_true, if_true, if_false]
        exact ⟨rfl, rfl, rfl, rfl⟩
      | ok text =>
        cases parsed : Json.ofText text with
        | error e =>
          simp only [Follows, decision, run, Workspace.manifest, Run.run_bind, Run.run_disk, there,
            read, parsed, Bool.not_true, Bool.false_eq_true, if_true, if_false]
          exact ⟨rfl, rfl, rfl, rfl⟩
        | ok manifest =>
          cases declares : Manifest.declaresDependencies manifest with
          | false =>
            simp only [Follows, decision, run, Workspace.manifest, Run.run_bind, Run.run_disk,
              there, read, parsed, declares, Bool.not_true, Bool.false_eq_true, if_true, if_false]
            exact ⟨rfl, rfl, rfl, rfl⟩
          | true =>
            cases on : settings.audit with
            | false =>
              simp only [Follows, decision, run, audit, Workspace.manifest, Run.run_bind,
                Run.run_disk, there, read, parsed, declares, on, Bool.not_true, Bool.not_false,
                Bool.false_eq_true, if_true, if_false]
              exact ⟨rfl, rfl, rfl, rfl⟩
            | true =>
              obtain ⟨value, after⟩ := audit_called runner on ws (w := w)
              simp only [Follows, decision, run, Workspace.manifest, Run.run_bind, Run.run_disk,
                there, read, parsed, declares, on, value, Bool.not_true, Bool.false_eq_true,
                if_true, if_false]
              exact ⟨ws, rfl, rfl, after⟩

theorem run_broken (runner : Runner) {ws : Option Workspace} {e : FileError}
    (h : decision settings ws w.disk = .error e) :
    ((run runner settings ws).run w).1 = .error e ∧
      World.Same w ((run runner settings ws).run w).2 := by
  have follows := run_follows runner settings ws w
  rw [h] at follows
  exact follows

theorem run_settled (runner : Runner) {ws : Option Workspace} {o : StageOutcome}
    (h : decision settings ws w.disk = .ok (some o)) :
    ((run runner settings ws).run w).1 = .ok o ∧
      World.Same w ((run runner settings ws).run w).2 := by
  have follows := run_follows runner settings ws w
  rw [h] at follows
  exact follows

theorem run_called (runner : Runner) {ws : Option Workspace}
    (h : decision settings ws w.disk = .ok none) :
    ∃ ws', ws = some ws' ∧
      ((run runner settings ws).run w).1 =
        .ok (outcomeOfReport ((report runner settings ws').run w).1) ∧
      World.Same ((report runner settings ws').run w).2 ((run runner settings ws).run w).2 := by
  have follows := run_follows runner settings ws w
  rw [h] at follows
  exact follows

theorem decision_of_broken {runner : Runner} {ws : Option Workspace} {e : FileError}
    (h : ((run runner settings ws).run w).1 = .error e) :
    decision settings ws w.disk = .error e := by
  cases decided : decision settings ws w.disk with
  | error e' =>
    rw [(run_broken runner decided).1] at h
    cases h
    rfl
  | ok settled =>
    cases settled with
    | none =>
      obtain ⟨_, _, called, _⟩ := run_called runner decided
      rw [called] at h
      cases h
    | some o =>
      rw [(run_settled runner decided).1] at h
      cases h

theorem run_broken_iff {runner : Runner} {ws : Option Workspace} {e : FileError} :
    ((run runner settings ws).run w).1 = .error e ↔ decision settings ws w.disk = .error e :=
  ⟨decision_of_broken, fun h => (run_broken runner h).1⟩

/-- Where the manifest breaks nothing off, the stage has nothing to audit, or ends in part, or with
what was reported. -/
theorem run_cases {runner : Runner} {ws : Option Workspace} {o : StageOutcome}
    (h : ((run runner settings ws).run w).1 = .ok o) :
    (∃ message, o = fullOutcome message) ∨ (∃ reason, o = partialOutcome reason) ∨
      ∃ packages, o = outcomeOf packages := by
  rcases decided : decision settings ws w.disk with e | _ | o'
  · rw [(run_broken runner decided).1] at h
    cases h
  · obtain ⟨ws', -, called, -⟩ := run_called runner decided
    rw [called] at h
    cases h
    cases ((report runner settings ws').run w).1 with
    | error failure => exact Or.inr (Or.inl ⟨failure.message, rfl⟩)
    | ok packages => exact Or.inr (Or.inr ⟨packages, rfl⟩)
  · rw [(run_settled runner decided).1] at h
    cases h
    exact (decision_some decided).imp_right Or.inl

theorem outcomeOf_counts (packages : List Audit.Package) :
    (outcomeOf packages).Counts .audit Scoring.auditPoints checkName "vulnerable_packages" := by
  unfold outcomeOf
  dsimp only
  rw [show packages.length = (packages.map (·.issue)).length from (List.length_map _).symm]
  split <;> exact ⟨rfl, rfl, _, Check.ofVerdict_name .., rfl⟩

theorem run_name {runner : Runner} {ws : Option Workspace} {o : StageOutcome}
    (h : ((run runner settings ws).run w).1 = .ok o) : o.check.name = checkName := by
  obtain ⟨message, rfl⟩ | ⟨reason, rfl⟩ | ⟨packages, rfl⟩ := run_cases h
  · rfl
  · rfl
  · obtain ⟨bare, named, same⟩ := (outcomeOf_counts packages).check
    rw [same]
    exact named

end AuditStage

end FixGrader
