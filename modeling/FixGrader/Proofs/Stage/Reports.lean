import FixGrader.Proofs.Stage.Course
/-!
# What a stage makes of a report

A tool stage that calls its tool, and gets an answer, goes by what the tool writes to its standard
output, and by nothing else.
-/
namespace FixGrader

namespace Runner

def asked (runner : Runner) (calls : List Invocation) (disk : Disk) (probe use : Invocation) :
    Except Tool.Failure Tool.Output :=
  match (runner calls disk probe).result with
  | .error failure => .error failure
  | .ok output =>
    if output.success then (runner (calls ++ [probe]) (runner calls disk probe).disk use).result
    else .error (.unavailable probe.program)

theorem call_run (runner : Runner) (i : Invocation) (w : World) : ∃ events ends,
    (runner.call i).run w = ((runner w.calls w.disk i).result,
      ⟨(runner w.calls w.disk i).disk, w.calls ++ [i], events, ends⟩) := ⟨_, _, rfl⟩

theorem inquire_asked {α : Type} (runner : Runner) (program : String) (timeout : Nat)
    (i : Invocation) (read : Tool.Output → Except Tool.Failure α) (w : World) :
    ((runner.inquire program timeout i read).run w).1 =
      (runner.asked w.calls w.disk (.probe program timeout) i).bind read := by
  obtain ⟨events, ends, probed⟩ := runner.call_run (.probe program timeout) w
  rw [asked, inquire, probe, Run.run_bind, Run.run_bind, probed]
  cases (runner w.calls w.disk (.probe program timeout)).result with
  | error failure => rfl
  | ok output =>
    cases good : output.success with
    | false =>
      simp only [good]
      rfl
    | true =>
      simp only [good, if_true]
      generalize (runner w.calls w.disk (.probe program timeout)).disk = disk
      obtain ⟨_, _, called⟩ :=
        runner.call_run i ⟨disk, w.calls ++ [.probe program timeout], events, ends⟩
      change ((runner.call i >>= _).run
        ⟨disk, w.calls ++ [.probe program timeout], events, ends⟩).1 = _
      rw [Run.run_bind, called]
      cases (runner (w.calls ++ [.probe program timeout]) disk i).result with
      | error failure => rfl
      | ok output => rfl

end Runner

namespace LintStage
variable {runner : Runner} {settings : ToolSettings} {ws : Workspace} {w : World} {stdout : String}

/-- The stage calls the linter, which writes this text. -/
structure Answered (runner : Runner) (settings : ToolSettings) (ws : Workspace) (w : World)
    (stdout : String) : Prop where
  called : (decision settings (some ws) w.disk).1 = none
  answer : ∃ output, runner.asked w.calls (decision settings (some ws) w.disk).2
      (.probe settings.npx (settings.probeSeconds * 1000)) (Lint.invocation settings ws) =
        .ok output ∧ output.stdout = stdout

theorem report_eq (runner : Runner) (settings : ToolSettings) (ws : Workspace) (w : World) :
    ((report runner settings ws).run w).1 = (runner.asked w.calls w.disk
      (.probe settings.npx (settings.probeSeconds * 1000)) (Lint.invocation settings ws)).bind
        fun output => Lint.readReport output.stdout := by
  unfold report
  exact runner.inquire_asked settings.npx _ _ (fun output => Lint.readReport output.stdout) w

theorem run_answered (answered : Answered runner settings ws w stdout) :
    ((run runner settings (some ws)).run w).1 = outcomeOfReport (Lint.readReport stdout) := by
  obtain ⟨called, output, asked, rfl⟩ := answered
  rcases decided : decision settings (some ws) w.disk with ⟨o, disk⟩
  rw [decided] at called asked
  subst called
  obtain ⟨ws', w', same, before, value, -⟩ := run_called runner decided
  cases same
  rw [value, report_eq, before.1, before.2, asked, Except.bind]

theorem outcomeOf_issues (diagnostics : List Lint.Diagnostic) :
    (outcomeOf diagnostics).issues = (diagnostics.filter (·.isSecurity)).map (·.issue) := by
  unfold outcomeOf
  dsimp only
  split <;> rfl

end LintStage

namespace AuditStage
variable {runner : Runner} {settings : ToolSettings} {ws : Workspace} {w : World} {stdout : String}

/-- The stage calls the auditor, which writes this text. -/
structure Answered (runner : Runner) (settings : ToolSettings) (ws : Workspace) (w : World)
    (stdout : String) : Prop where
  called : decision settings (some ws) w.disk = .ok none
  answer : ∃ output, runner.asked w.calls w.disk
      (.probe settings.npm (settings.probeSeconds * 1000)) (Audit.invocation settings ws) =
        .ok output ∧ output.stdout = stdout

theorem report_eq (runner : Runner) (settings : ToolSettings) (ws : Workspace) (w : World) :
    ((report runner settings ws).run w).1 = (runner.asked w.calls w.disk
      (.probe settings.npm (settings.probeSeconds * 1000)) (Audit.invocation settings ws)).bind
        fun output => Audit.readReport output.stdout := by
  unfold report
  exact runner.inquire_asked settings.npm _ _ (fun output => Audit.readReport output.stdout) w

theorem run_answered (answered : Answered runner settings ws w stdout) :
    ((run runner settings (some ws)).run w).1 =
      .ok (outcomeOfReport (Audit.readReport stdout)) := by
  obtain ⟨called, output, asked, rfl⟩ := answered
  obtain ⟨ws', same, value, -⟩ := run_called runner called
  cases same
  rw [value, report_eq, asked, Except.bind]

theorem outcomeOf_issues (packages : List Audit.Package) :
    (outcomeOf packages).issues = packages.map (·.issue) := by
  unfold outcomeOf
  dsimp only
  split <;> rfl

end AuditStage

/-- A workspace that is prepared for the linter, and whose manifest names a package to audit. -/
def equippedWorkspace : World :=
  .ofDisk ⟨[(["w"], .directory true),
    (["w", "a.js"], .file (Text.toBytes "eval(s); eval(t)") true true false),
    (["w", ".eslintrc.security.json"], .file (Text.toBytes "") true true false),
    (["w", "package.json"], .file (Text.toBytes ("\x7b\"dependencies\":\x7b\"q\":\"1\"\x7d," ++
      "\"devDependencies\":\x7b\"eslint\":\"8\",\"eslint-plugin-security\":\"1\"\x7d\x7d")) true true
        false)], []⟩

def equippedFiles : Workspace := ⟨⟨"/w"⟩, [⟨"/w/a.js"⟩]⟩

def equippedSubmission : Submission :=
  ⟨"challenge", "plain", [⟨"/w/a.js"⟩], "eval(s); eval(t)", some ⟨"/w"⟩⟩

/-- Tools that tell a version, and a linter and an auditor that write these reports. -/
def reportingTools (linted audited : String) : Runner := .answering fun i =>
  if i.args = ["--version"] then .ok ⟨some 0, "9.1", ""⟩
  else .ok ⟨some 0, if i.program = "npm" then audited else linted, ""⟩

def lintedText : String :=
  "[\x7b\"filePath\":\"\",\"messages\":[\x7b\"ruleId\":\"no-eval\",\"severity\":2,\"message\":\"\"\x7d]\x7d]"

def auditedText : String := "\x7b\"vulnerabilities\":\x7b\"q\":\x7b\"severity\":\"low\"\x7d\x7d\x7d"

theorem LintStage.answered_reporting (linted audited : String) : Answered
    (reportingTools linted audited) .standard equippedFiles equippedWorkspace linted :=
  ⟨Option.isNone_iff_eq_none.mp (by decide +kernel), ⟨some 0, linted, ""⟩, rfl, rfl⟩

theorem AuditStage.answered_reporting (linted audited : String) : Answered
    (reportingTools linted audited) .standard equippedFiles equippedWorkspace audited := by
  have undecided : ((decision .standard (some equippedFiles) equippedWorkspace.disk).toOption.map
      Option.isNone) = some true := by
    decide +kernel
  refine ⟨?_, ⟨some 0, audited, ""⟩, rfl, rfl⟩
  revert undecided
  rcases decision .standard (some equippedFiles) equippedWorkspace.disk with e | _ | o
  · exact fun none => by cases none
  · exact fun _ => rfl
  · exact fun none => by cases none

end FixGrader
