import FixGrader.Proofs.Validation.Order
/-!
# The calls of a validation

A tool stage asks its tool for the version before it uses it, and it does neither unless all else
that it needs is there: for the linter a workspace that could be prepared, for the auditor a
manifest with dependencies, as it stands when the linter is done. What a validation calls is
therefore settled by the settings, by the files, and by what the tools answer to the calls before;
nothing that a runner does can make it call anything else.
-/
namespace FixGrader

namespace Runner

def filesAfter (runner : Runner) : List Invocation → Disk → List Invocation → Disk
  | _, disk, [] => disk
  | before, disk, i :: rest =>
    runner.filesAfter (before ++ [i]) (runner before disk i).disk rest

/-- Whether some calls all end, given the calls before them. -/
def endsAll (runner : Runner) : List Invocation → Disk → List Invocation → Bool
  | _, _, [] => true
  | before, disk, i :: rest =>
    (runner before disk i).ends &&
      runner.endsAll (before ++ [i]) (runner before disk i).disk rest

def AlwaysEnds (runner : Runner) : Prop := ∀ calls disk i, (runner calls disk i).ends = true

theorem AlwaysEnds.endsAll {runner : Runner} (always : runner.AlwaysEnds)
    (before : List Invocation) (disk : Disk) (used : List Invocation) :
    runner.endsAll before disk used = true := by
  induction used generalizing before disk with
  | nil => rfl
  | cons i used ih => rw [Runner.endsAll, always, ih, Bool.and_true]

theorem filesAfter_append (runner : Runner) (before : List Invocation) (disk : Disk)
    (used used' : List Invocation) : runner.filesAfter before disk (used ++ used') =
      runner.filesAfter (before ++ used) (runner.filesAfter before disk used) used' := by
  induction used generalizing before disk with
  | nil => rw [List.nil_append, List.append_nil, filesAfter]
  | cons i used ih =>
    rw [List.cons_append, filesAfter, filesAfter, ih, List.append_cons before i used]

theorem endsAll_append (runner : Runner) (before : List Invocation) (disk : Disk)
    (used used' : List Invocation) : runner.endsAll before disk (used ++ used') =
      (runner.endsAll before disk used &&
        runner.endsAll (before ++ used) (runner.filesAfter before disk used) used') := by
  induction used generalizing before disk with
  | nil => rw [List.nil_append, List.append_nil, filesAfter, endsAll, Bool.true_and]
  | cons i used ih =>
    rw [List.cons_append, endsAll, endsAll, filesAfter, ih, Bool.and_assoc,
      List.append_cons before i used]

/-- Whether a call ends with the exit status zero. -/
def Succeeds (runner : Runner) (before : List Invocation) (disk : Disk) (i : Invocation) : Prop :=
  ∃ output, (runner before disk i).result = .ok output ∧ output.exitStatus = some 0

/-- A run that adds some calls to those before, leaves the files as these calls do, and ends if all
of them do. -/
structure Adds (runner : Runner) (w : World) (disk : Disk) (used : List Invocation) (w' : World) :
    Prop where
  calls : w'.calls = w.calls ++ used
  files : w'.disk = runner.filesAfter w.calls disk used
  ends : w'.ends = (w.ends && runner.endsAll w.calls disk used)

theorem Adds.none_of_same {runner : Runner} {w w' : World} {disk : Disk} (files : w'.disk = disk)
    (calls : w'.calls = w.calls) (ends : w'.ends = w.ends) : runner.Adds w disk [] w' :=
  ⟨by rw [calls, List.append_nil], files, by rw [ends, endsAll, Bool.and_true]⟩

theorem Adds.of_same {runner : Runner} {w w₁ w₂ w' : World} {disk : Disk} {used : List Invocation}
    (adds : runner.Adds w₁ disk used w₂) (before : World.Same w w₁) (after : World.Same w₂ w') :
    runner.Adds w disk used w' :=
  ⟨by rw [after.2, adds.calls, before.2], by rw [after.1, adds.files, before.2],
    by rw [after.3, adds.ends, before.3, before.2]⟩

/-- One run after the other. -/
theorem Adds.append {runner : Runner} {w w₁ w₂ : World} {disk : Disk}
    {used used' : List Invocation} (adds : runner.Adds w disk used w₁)
    (adds' : runner.Adds w₁ w₁.disk used' w₂) : runner.Adds w disk (used ++ used') w₂ := by
  constructor
  · rw [adds'.calls, adds.calls, List.append_assoc]
  · rw [adds'.files, adds.calls, adds.files, filesAfter_append]
  · rw [adds'.ends, adds.ends, adds.calls, adds.files, endsAll_append, Bool.and_assoc]

end Runner

/-- The calls of a stage that asks for its tool and then uses it: nothing at all unless there is
work to do, and no use of a tool that does not answer well. -/
structure Asked (wanted answered : Prop) (probe use : Invocation) (calls : List Invocation) :
    Prop where
  order : calls <+: [probe, use]
  asked : probe ∈ calls ↔ wanted
  used : use ∈ calls ↔ wanted ∧ answered

theorem asked_idle {wanted answered : Prop} {probe use : Invocation} (idle : ¬ wanted) :
    Asked wanted answered probe use [] :=
  ⟨List.nil_prefix, by simp [idle], by simp [idle]⟩

theorem asked_refused {wanted answered : Prop} {probe use : Invocation} (apart : use ≠ probe)
    (wants : wanted) (refused : ¬ answered) : Asked wanted answered probe use [probe] :=
  ⟨⟨[use], rfl⟩, by simp [wants], by simp [apart, refused]⟩

theorem asked_answered {wanted answered : Prop} {probe use : Invocation} (wants : wanted)
    (answers : answered) : Asked wanted answered probe use [probe, use] :=
  ⟨List.prefix_rfl, by simp [wants], by simp [wants, answers]⟩

/-- The calls are settled by what is wanted and what is answered. -/
theorem Asked.unique {wanted answered : Prop} {probe use : Invocation} (apart : use ≠ probe)
    {calls calls' : List Invocation} (asked : Asked wanted answered probe use calls)
    (asked' : Asked wanted answered probe use calls') : calls' = calls := by
  have same : (probe ∈ calls' ↔ probe ∈ calls) ∧ (use ∈ calls' ↔ use ∈ calls) :=
    ⟨asked'.asked.trans asked.asked.symm, asked'.used.trans asked.used.symm⟩
  have ways : ∀ {l : List Invocation}, l <+: [probe, use] →
      l = [] ∨ l = [probe] ∨ l = [probe, use] := by
    intro l front
    simp only [List.prefix_cons_iff, List.prefix_nil] at front
    obtain rfl | ⟨_, rfl, rfl | ⟨_, rfl, rfl⟩⟩ := front <;> simp
  rcases ways asked.order with rfl | rfl | rfl <;> rcases ways asked'.order with rfl | rfl | rfl <;>
    simp [apart] at same ⊢

namespace Runner
variable {runner : Runner}

theorem call_result (i : Invocation) (w : World) :
    ((runner.call i).run w).1 = (runner w.calls w.disk i).result := rfl

theorem call_adds (runner : Runner) (i : Invocation) (w : World) :
    runner.Adds w w.disk [i] ((runner.call i).run w).2 :=
  ⟨rfl, rfl, congrArg (w.ends && ·) (Bool.and_true _).symm⟩

theorem probe_answered {program : String} {timeout : Nat} {w : World} :
    ((runner.probe program timeout).run w).1 = .ok () ↔
      runner.Succeeds w.calls w.disk (.probe program timeout) := by
  unfold Succeeds probe
  rw [Run.run_bind, ← call_result]
  cases ((runner.call (.probe program timeout)).run w).1 with
  | error failure =>
    change Except.error failure = Except.ok () ↔ _
    simp
  | ok output =>
    change (if output.success then Except.ok () else .error (Tool.Failure.unavailable program)) =
      Except.ok () ↔ _
    simp only [Tool.Output.success, decide_eq_true_eq, Except.ok.injEq, exists_eq_left']
    split <;> simp_all

/-- A program that is asked for its version, and called if it answers well. -/
theorem inquire_adds {α : Type} {wanted : Prop} (wants : wanted) (program : String) (timeout : Nat)
    {i : Invocation} (apart : i ≠ .probe program timeout)
    (read : Tool.Output → Except Tool.Failure α) (w : World) :
    ∃ calls, Asked wanted (runner.Succeeds w.calls w.disk (.probe program timeout))
        (.probe program timeout) i calls ∧
      runner.Adds w w.disk calls ((runner.inquire program timeout i read).run w).2 := by
  have asked := call_adds runner (.probe program timeout) w
  rw [← probe_disk] at asked
  rw [inquire, Run.run_bind]
  split
  · rename_i failure refused
    refine ⟨[.probe program timeout], asked_refused apart wants fun answers => ?_, asked⟩
    rw [probe_answered.mpr answers] at refused
    cases refused
  · rename_i answered
    refine ⟨[.probe program timeout, i], asked_answered wants (probe_answered.mp answered), ?_⟩
    have both : runner.Adds w w.disk [.probe program timeout, i]
        ((runner.call i).run ((runner.probe program timeout).run w).2).2 :=
      asked.append (call_adds runner i ((runner.probe program timeout).run w).2)
    rw [Run.run_bind]
    split <;> exact both

end Runner

namespace ToolSettings

def npxProbe (t : ToolSettings) : Invocation :=
  ⟨t.npx, ["--version"], none, [], t.probeSeconds * 1000⟩

def npmProbe (t : ToolSettings) : Invocation :=
  ⟨t.npm, ["--version"], none, [], t.probeSeconds * 1000⟩

theorem lint_apart (t : ToolSettings) (ws : Workspace) : Lint.invocation t ws ≠ t.npxProbe :=
  fun same => by cases congrArg Invocation.cwd same

theorem audit_apart (t : ToolSettings) (ws : Workspace) : Audit.invocation t ws ≠ t.npmProbe :=
  fun same => by cases congrArg Invocation.cwd same

end ToolSettings

theorem Json.members?_eq_some_iff {j : Json} {members : List (String × Json)} :
    j.members? = some members ↔ j = .object members := by
  cases j <;> simp [Json.members?]

def Workspace.NeedsPackages (ws : Workspace) (disk : Disk) : Prop :=
  ∃ text members packages, disk.readText ws.manifest = .ok text ∧
    Json.ofText text = .ok (.object members) ∧
      Json.find? "dependencies" members = some (.object packages) ∧ packages ≠ []

theorem Manifest.declaresDependencies_iff {manifest : Json} :
    declaresDependencies manifest = true ↔ ∃ members packages, manifest = .object members ∧
      Json.find? "dependencies" members = some (.object packages) ∧ packages ≠ [] := by
  unfold declaresDependencies
  constructor
  · intro declares
    split at declares
    · rename_i packages found
      obtain ⟨value, got, listed⟩ := Option.bind_eq_some_iff.mp found
      obtain ⟨members, opened, under⟩ := Option.bind_eq_some_iff.mp got
      rw [Json.members?_eq_some_iff] at listed opened
      subst listed opened
      exact ⟨members, packages, rfl, under, by simpa using declares⟩
    · cases declares
  · rintro ⟨members, packages, rfl, found, filled⟩
    simp [Json.get?, Json.members?, found, filled]

namespace LintStage
variable {settings : ToolSettings} {ws : Workspace}

/-- All that the linter needs besides its launcher. -/
def Ready (settings : ToolSettings) (ws : Workspace) (disk : Disk) : Prop :=
  settings.lint = true ∧ ∃ setup, (Lint.Setup.ensure disk ws.root).1 = .ok setup

theorem decision_none_iff {disk : Disk} :
    (decision settings (some ws) disk).1 = none ↔ Ready settings ws disk := by
  unfold Ready
  cases lint : settings.lint with
  | false => simp [decision_disabled lint]
  | true =>
    rcases prepared : Lint.Setup.ensure disk ws.root with ⟨e | setup, disk'⟩
    · simp [decision_unprepared lint prepared]
    · simp [decision_prepared lint prepared]

theorem report_adds (runner : Runner) (settings : ToolSettings) (ws : Workspace) {wanted : Prop}
    (wants : wanted) (w : World) :
    ∃ calls, Asked wanted (runner.Succeeds w.calls w.disk settings.npxProbe) settings.npxProbe
        (Lint.invocation settings ws) calls ∧
      runner.Adds w w.disk calls ((report runner settings ws).run w).2 :=
  Runner.inquire_adds wants settings.npx (settings.probeSeconds * 1000) (settings.lint_apart ws)
    (fun output => Lint.readReport output.stdout) w

/-- Without submitted files the stage touches nothing. -/
theorem run_idle (runner : Runner) (settings : ToolSettings) (w : World) :
    World.Same w ((run runner settings none).run w).2 := by
  cases lint : settings.lint with
  | false => exact (run_settled runner (decision_disabled lint none w.disk)).2
  | true => exact (run_settled runner (decision_idle lint w.disk)).2

/-- The lint stage asks for the launcher exactly in a workspace that is ready. -/
theorem run_adds (runner : Runner) (settings : ToolSettings) (ws : Workspace) (w : World) :
    ∃ calls, Asked (Ready settings ws w.disk)
        (runner.Succeeds w.calls (decision settings (some ws) w.disk).2 settings.npxProbe)
        settings.npxProbe (Lint.invocation settings ws) calls ∧
      runner.Adds w (decision settings (some ws) w.disk).2 calls
        ((run runner settings (some ws)).run w).2 := by
  rcases decided : decision settings (some ws) w.disk with ⟨_ | o, disk⟩
  · have ready : Ready settings ws w.disk := decision_none_iff.mp (by rw [decided])
    obtain ⟨ws', w', same, before, -, after⟩ := run_called runner decided
    cases same
    obtain ⟨calls, asked, adds⟩ := report_adds runner settings ws ready w'
    rw [before.1, before.2] at asked
    rw [before.1] at adds
    have called := adds.of_same before after
    exact ⟨calls, asked, called.calls, called.files, called.ends⟩
  · obtain ⟨-, same⟩ := run_settled runner decided
    refine ⟨[], asked_idle fun ready => ?_, .none_of_same same.1 same.2 same.3⟩
    have none_left := decision_none_iff.mpr ready
    rw [decided] at none_left
    cases none_left

end LintStage

namespace AuditStage
variable {settings : ToolSettings} {ws : Workspace}

/-- All that the auditor needs besides itself. -/
def Ready (settings : ToolSettings) (ws : Workspace) (disk : Disk) : Prop :=
  settings.audit = true ∧ ws.NeedsPackages disk

theorem decision_none_iff {disk : Disk} :
    decision settings (some ws) disk = .ok none ↔ Ready settings ws disk := by
  constructor
  · intro undecided
    obtain ⟨there, text, manifest, read, parsed, declares, on⟩ : disk.exists? ws.manifest = true ∧
        ∃ text manifest, disk.readText ws.manifest = .ok text ∧ Json.ofText text = .ok manifest ∧
          Manifest.declaresDependencies manifest = true ∧ settings.audit = true := by
      unfold decision at undecided
      grind
    obtain ⟨members, packages, rfl, found, filled⟩ := Manifest.declaresDependencies_iff.mp declares
    exact ⟨on, text, members, packages, read, parsed, found, filled⟩
  · rintro ⟨on, text, members, packages, read, parsed, found, filled⟩
    have declares := Manifest.declaresDependencies_iff.mpr ⟨members, packages, rfl, found, filled⟩
    rw [decision_read read parsed, declares, on]
    rfl

theorem report_adds (runner : Runner) (settings : ToolSettings) (ws : Workspace) {wanted : Prop}
    (wants : wanted) (w : World) :
    ∃ calls, Asked wanted (runner.Succeeds w.calls w.disk settings.npmProbe) settings.npmProbe
        (Audit.invocation settings ws) calls ∧
      runner.Adds w w.disk calls ((report runner settings ws).run w).2 :=
  Runner.inquire_adds wants settings.npm (settings.probeSeconds * 1000) (settings.audit_apart ws)
    (fun output => Audit.readReport output.stdout) w

/-- Without submitted files there is nothing to audit. -/
theorem run_idle (runner : Runner) (settings : ToolSettings) (w : World) :
    World.Same w ((run runner settings none).run w).2 := by
  have idle : decision settings none w.disk =
      .ok (some (fullOutcome "No dependency manifest found")) := rfl
  exact (run_settled runner idle).2

/-- The audit stage asks for the auditor exactly where there is a manifest to audit. -/
theorem run_adds (runner : Runner) (settings : ToolSettings) (ws : Workspace) (w : World) :
    ∃ calls, Asked (Ready settings ws w.disk)
        (runner.Succeeds w.calls w.disk settings.npmProbe)
        settings.npmProbe (Audit.invocation settings ws) calls ∧
      runner.Adds w w.disk calls ((run runner settings (some ws)).run w).2 := by
  by_cases ready : Ready settings ws w.disk
  · obtain ⟨ws', same, -, after⟩ := run_called runner (decision_none_iff.mpr ready)
    cases same
    obtain ⟨calls, asked, adds⟩ := report_adds runner settings ws ready w
    exact ⟨calls, asked, adds.of_same .rfl after⟩
  · have same : World.Same w ((run runner settings (some ws)).run w).2 := by
      rcases decided : decision settings (some ws) w.disk with e | _ | o
      · exact (run_broken runner decided).2
      · exact absurd (decision_none_iff.mp decided) ready
      · exact (run_settled runner decided).2
    exact ⟨[], asked_idle ready, .none_of_same same.1 same.2 same.3⟩

end AuditStage

/-- The files that the tools find: those of a workspace prepared for the linter, if it is to run. -/
def Validator.filesPrepared (v : Validator) (ws : Workspace) (disk : Disk) : Disk :=
  if v.tools.lint then (Lint.Setup.ensure disk ws.root).2 else disk

structure Invocation.RunsIn (i : Invocation) (program : String) (root : Path) (seconds : Nat) :
    Prop where
  program : i.program = program
  cwd : i.cwd = some root
  timeout : i.timeout = seconds * 1000

/-- The calls of the lint stage, and those of the audit stage, which goes by the files that the lint
stage left. -/
structure Validator.Protocol (v : Validator) (runner : Runner) (ws : Workspace) (w : World)
    (linting auditing : List Invocation) : Prop where
  lint : Asked (LintStage.Ready v.tools ws w.disk)
    (runner.Succeeds w.calls (v.filesPrepared ws w.disk) v.tools.npxProbe)
    v.tools.npxProbe (Lint.invocation v.tools ws) linting
  audit : Asked
    (AuditStage.Ready v.tools ws (runner.filesAfter w.calls (v.filesPrepared ws w.disk) linting))
    (runner.Succeeds (w.calls ++ linting)
      (runner.filesAfter w.calls (v.filesPrepared ws w.disk) linting) v.tools.npmProbe)
    v.tools.npmProbe (Audit.invocation v.tools ws) auditing
  linter : (Lint.invocation v.tools ws).RunsIn v.tools.npx ws.root v.tools.lintSeconds
  auditor : (Audit.invocation v.tools ws).RunsIn v.tools.npm ws.root v.tools.auditSeconds

namespace Validator

theorem decision_filesPrepared (v : Validator) (ws : Workspace) (disk : Disk) :
    (LintStage.decision v.tools (some ws) disk).2 = v.filesPrepared ws disk := by
  unfold filesPrepared
  cases lint : v.tools.lint with
  | false => rw [LintStage.decision_disabled lint, if_neg Bool.false_ne_true]
  | true =>
    rcases prepared : Lint.Setup.ensure disk ws.root with ⟨_ | _, disk'⟩
    · rw [LintStage.decision_unprepared lint prepared, if_pos rfl]
    · rw [LintStage.decision_prepared lint prepared, if_pos rfl]

/-- The calls of a validation, and what they leave. -/
theorem validate_protocol (v : Validator) (runner : Runner) (now : Timestamp) (s : Submission)
    (w : World) : (s.files = [] ∧ World.Same w ((v.validate runner now s).run w).2) ∨
      ∃ ws linting auditing, Workspace.resolve s.workspace s.files = some ws ∧
        v.Protocol runner ws w linting auditing ∧
        runner.Adds w (v.filesPrepared ws w.disk) (linting ++ auditing)
          ((v.validate runner now s).run w).2 := by
  obtain ⟨w₁, w₂, before, between, -, after⟩ := stages_run v runner s w
  have last := (validate_run v runner s w now).2
  cases resolved : Workspace.resolve s.workspace s.files with
  | none =>
    rw [resolved] at between after
    have linted := (before.trans (LintStage.run_idle runner v.tools w₁)).trans between
    have audited := ((AuditStage.run_idle runner v.tools w₂).trans after).trans last
    exact Or.inl ⟨Workspace.resolve_none.mp resolved, linted.trans audited⟩
  | some ws =>
    rw [resolved] at between after
    obtain ⟨linting, lint, added⟩ := LintStage.run_adds runner v.tools ws w₁
    obtain ⟨auditing, audit, added'⟩ := AuditStage.run_adds runner v.tools ws w₂
    have linted := added.of_same before between
    have audited := added'.of_same .rfl (after.trans last)
    rw [before.1, before.2, decision_filesPrepared] at lint
    rw [before.1, decision_filesPrepared] at linted
    rw [linted.calls, linted.files] at audit
    exact Or.inr ⟨ws, linting, auditing, rfl, ⟨lint, audit, ⟨rfl, rfl, rfl⟩, ⟨rfl, rfl, rfl⟩⟩,
      linted.append audited⟩

/-- What a validation calls: first the calls of the lint stage, then those of the audit stage. -/
theorem validate_calls (v : Validator) (runner : Runner) (now : Timestamp) (s : Submission)
    (w : World) : ∃ linting auditing,
    ((v.validate runner now s).run w).2.calls = w.calls ++ linting ++ auditing ∧
      match Workspace.resolve s.workspace s.files with
      | none => s.files = [] ∧ linting = [] ∧ auditing = []
      | some ws => s.files ≠ [] ∧ v.Protocol runner ws w linting auditing := by
  obtain ⟨nothing, same⟩ | ⟨ws, linting, auditing, resolved, protocol, adds⟩ :=
    validate_protocol v runner now s w
  · refine ⟨[], [], by rw [same.2, List.append_nil, List.append_nil], ?_⟩
    rw [Workspace.resolve_none.mpr nothing]
    exact ⟨nothing, rfl, rfl⟩
  · refine ⟨linting, auditing, by rw [adds.calls, List.append_assoc], ?_⟩
    rw [resolved]
    refine ⟨fun nothing => ?_, protocol⟩
    rw [Workspace.resolve_none.mpr nothing] at resolved
    cases resolved

theorem Protocol.unique {v : Validator} {runner : Runner} {ws : Workspace} {w : World}
    {linting auditing linting' auditing' : List Invocation}
    (protocol : v.Protocol runner ws w linting auditing)
    (protocol' : v.Protocol runner ws w linting' auditing') :
    linting' = linting ∧ auditing' = auditing := by
  obtain rfl := protocol.lint.unique (v.tools.lint_apart ws) protocol'.lint
  exact ⟨rfl, protocol.audit.unique (v.tools.audit_apart ws) protocol'.audit⟩

theorem Protocol.of_same {v : Validator} {runner : Runner} {ws : Workspace} {w w' : World}
    {linting auditing : List Invocation} (same : World.Same w w')
    (protocol : v.Protocol runner ws w linting auditing) :
    v.Protocol runner ws w' linting auditing := by
  obtain ⟨lint, audit, linter, auditor⟩ := protocol
  rw [← same.disk, ← same.calls] at lint audit
  exact ⟨lint, audit, linter, auditor⟩

/-- A validation ends exactly if each of its calls does. -/
theorem validate_ends_iff (v : Validator) (runner : Runner) (now : Timestamp) (s : Submission)
    (w : World) : ((v.validate runner now s).run w).2.ends = true ↔ w.ends = true ∧
      ∀ ws, Workspace.resolve s.workspace s.files = some ws → ∃ linting auditing,
        v.Protocol runner ws w linting auditing ∧
        runner.endsAll w.calls (v.filesPrepared ws w.disk) (linting ++ auditing) = true := by
  obtain ⟨nothing, same⟩ | ⟨ws, linting, auditing, resolved, protocol, adds⟩ :=
    validate_protocol v runner now s w
  · rw [same.ends, Workspace.resolve_none.mpr nothing]
    simp
  · rw [adds.ends, Bool.and_eq_true, resolved]
    refine and_congr_right fun _ => ⟨?_, fun all => ?_⟩
    · rintro ended _ ⟨⟩
      exact ⟨linting, auditing, protocol, ended⟩
    · obtain ⟨linting', auditing', protocol', ended⟩ := all ws rfl
      obtain ⟨rfl, rfl⟩ := protocol.unique protocol'
      exact ended

end Validator

end FixGrader
