import FixGrader.Proofs.Lint.Traces
import FixGrader.Proofs.Validation.Files
/-!
# What breaks a validation off

A validation is broken off by one thing only: a manifest that is there and cannot be read as text. No
answer of a tool does it, and the preparation for the linter neither makes such a manifest nor mends
one.
-/
namespace FixGrader

/-- The submission has files, and the manifest of their workspace is there but is no text. -/
def Submission.ManifestUnreadable (s : Submission) (d : Disk) : Prop :=
  s.files ≠ [] ∧ ∃ ws, Workspace.resolve s.workspace s.files = some ws ∧
    d.exists? ws.manifest = true ∧ ∀ text, d.readText ws.manifest ≠ .ok text

/-- The result ends with the failing check of a validation that was broken off, and has no points of
the audit. -/
def Validation.BrokenOff (r : Validation) : Prop :=
  (∃ c, r.checks.getLast? = some c ∧ c.name = errorCheckName ∧ c.passed = false) ∧
    r.subScores.audit = none

theorem AuditStage.decision_error_iff {settings : ToolSettings} {ws : Option Workspace}
    {disk : Disk} {e : FileError} :
    decision settings ws disk = .error e ↔ ∃ ws', ws = some ws' ∧
      disk.exists? ws'.manifest = true ∧ disk.readText ws'.manifest = .error e := by
  constructor
  · exact decision_error
  · rintro ⟨ws', rfl, there, unread⟩
    simp only [decision, there, unread, if_true]

/-- The lint stage does not change which error the manifest cannot be read for. -/
theorem LintStage.unreadable_iff (settings : ToolSettings) (ws : Workspace) (d : Disk)
    (e : FileError) :
    (decision settings (some ws) d).2.exists? ws.manifest = true ∧
        (decision settings (some ws) d).2.readText ws.manifest = .error e ↔
      d.exists? ws.manifest = true ∧ d.readText ws.manifest = .error e := by
  rcases decision_files settings ws d with same | prepared
  · rw [same]
  · rw [prepared]
    exact Lint.Setup.ensure_unreadable_iff rfl e

namespace Validation

theorem brokenOff_of_abort (s : Submission) {pattern lint : StageOutcome}
    (first : pattern.stage = .pattern) (second : lint.stage = .lint) (e : FileError)
    (now : Timestamp) : (ofOutcomes s [pattern, lint] (some e) now).BrokenOff := by
  refine ⟨⟨errorCheck e, rfl, rfl, rfl⟩, ?_⟩
  rw [ofOutcomes]
  exact congrArg SubScores.audit
    (SubScores.ofOutcomes_eq none first second fun o ended => nomatch ended)

theorem not_brokenOff_of_audit (s : Submission) {pattern lint audit : StageOutcome}
    (name : audit.check.name = AuditStage.checkName) (now : Timestamp) :
    ¬ (ofOutcomes s [pattern, lint, audit] none now).BrokenOff := by
  rintro ⟨⟨c, last, named, -⟩, -⟩
  have same : audit.check = c := Option.some.inj last
  rw [← same, name] at named
  exact absurd named (by decide)

end Validation

namespace Validator
variable {runner : Runner} (silent : runner.WritesNothing) (v : Validator) (s : Submission)
  (w : World)

include silent

/-- The stages end with an error exactly if the manifest could not be read before them. -/
theorem stages_broken_iff (e : FileError) :
    ((v.stages runner s).run w).1.2 = some e ↔
      ∃ ws, Workspace.resolve s.workspace s.files = some ws ∧
        w.disk.exists? ws.manifest = true ∧ w.disk.readText ws.manifest = .error e := by
  obtain ⟨w₁, w₂, before, between, together, -⟩ := stages_run v runner s w
  have files : w₂.disk = (LintStage.decision v.tools
      (Workspace.resolve s.workspace s.files) w.disk).2 := by
    rw [between.1, LintStage.run_files silent, before.1]
  rw [together, gathered_broken_iff, AuditStage.run_broken_iff, AuditStage.decision_error_iff, files]
  constructor
  · rintro ⟨ws, resolved, unreadable⟩
    rw [resolved] at unreadable
    exact ⟨ws, resolved, (LintStage.unreadable_iff v.tools ws w.disk e).mp unreadable⟩
  · rintro ⟨ws, resolved, unreadable⟩
    rw [resolved]
    exact ⟨ws, rfl, (LintStage.unreadable_iff v.tools ws w.disk e).mpr unreadable⟩

end Validator

namespace Validation

/-- A result is broken off exactly if an error ended its stages, and then it ends with the check of
this error. -/
theorem brokenOff_iff (v : Validator) (runner : Runner) (now : Timestamp) (s : Submission)
    (w : World) :
    ((v.validate runner now s).run w).1.BrokenOff ↔
      ∃ e, ((v.stages runner s).run w).1.2 = some e := by
  rw [(Validator.validate_run v runner s w now).1]
  obtain ⟨w₁, w₂, ⟨e, -, stages⟩ | ⟨o, ended, stages⟩⟩ := Validator.stages_cases v runner s w
  · rw [stages]
    refine iff_of_true ?_ ⟨e, rfl⟩
    exact brokenOff_of_abort s (PatternStage.outcome_stage ..) (LintStage.run_stage ..) e now
  · rw [stages]
    refine iff_of_false (not_brokenOff_of_audit s (AuditStage.run_name ended) now) ?_
    rintro ⟨e, same⟩
    cases same

end Validation

/-- Whatever the tools answer, whatever was submitted and under all settings, a validation is broken
off exactly if the submission has files and the manifest of its workspace is there before, but
cannot be read as text. -/
theorem brokenOff_iff_manifestUnreadable (v : Validator) (runner : Runner)
    (silent : runner.WritesNothing) (now : Timestamp) (s : Submission) (w : World) :
    ((v.validate runner now s).run w).1.BrokenOff ↔ s.ManifestUnreadable w.disk := by
  rw [Validation.brokenOff_iff]
  constructor
  · rintro ⟨e, broken⟩
    obtain ⟨ws, resolved, there, unread⟩ := (Validator.stages_broken_iff silent v s w e).mp broken
    refine ⟨?_, ws, resolved, there, ?_⟩
    · intro nothing
      rw [Workspace.resolve_none.mpr nothing] at resolved
      cases resolved
    · intro text read
      rw [unread] at read
      cases read
  · rintro ⟨-, ws, resolved, there, unreadable⟩
    cases read : w.disk.readText ws.manifest with
    | error e =>
      exact ⟨e, (Validator.stages_broken_iff silent v s w e).mpr ⟨ws, resolved, there, read⟩⟩
    | ok text => exact absurd read (unreadable text)

def manifestOf (bytes : ByteArray) : World :=
  .ofDisk ⟨[(["w"], .directory true), (["w", "package.json"], .file bytes true true false)], []⟩

def babblingTools : Runner := fun _ disk _ => ⟨.ok ⟨some 0, "\x7d\x7b", ""⟩, disk, [], true⟩

def oneFile : Submission := ⟨"challenge", "xss", [⟨"/w/a.js"⟩], "", some ⟨"/w"⟩⟩

/-- A manifest that is no text breaks a validation off; one that is text, but no document, does not,
nor do the tools. -/
theorem brokenOff_garbled :
    ((Validator.validate ⟨default, .standard⟩ babblingTools default oneFile).run
      (manifestOf ⟨#[0xff]⟩)).1.BrokenOff ∧
    ¬ ((Validator.validate ⟨default, .standard⟩ babblingTools default oneFile).run
      (manifestOf (Text.toBytes "\x7d\x7b"))).1.BrokenOff := by
  have silent : babblingTools.WritesNothing := fun _ _ _ => rfl
  rw [brokenOff_iff_manifestUnreadable _ _ silent, brokenOff_iff_manifestUnreadable _ _ silent]
  constructor
  · refine ⟨by decide, _, rfl, by decide, ?_⟩
    intro text read
    have unread : ((manifestOf ⟨#[0xff]⟩).disk.readText
        (Path.join ⟨"/w"⟩ ⟨Manifest.fileName⟩)).toBool = false := by
      decide +kernel
    change Disk.readText _ (Path.join ⟨"/w"⟩ ⟨Manifest.fileName⟩) = _ at read
    rw [read] at unread
    cases unread
  · rintro ⟨-, ws, resolved, -, unreadable⟩
    cases resolved
    have located : (manifestOf (Text.toBytes "\x7d\x7b")).disk.locate
        (Path.join ⟨"/w"⟩ ⟨Manifest.fileName⟩) = .ok ["w", "package.json"] := rfl
    exact unreadable _ (Disk.readText_file located rfl)

end FixGrader
