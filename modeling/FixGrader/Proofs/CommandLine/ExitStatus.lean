import FixGrader.CommandLine.Run
import FixGrader.Proofs.Challenge.Rendered
import FixGrader.Proofs.Session.Run
import FixGrader.Proofs.Tool.System
import FixGrader.Proofs.Validation.Confinement
import FixGrader.Proofs.Validation.Observed
/-!
# The exit status of a check

A check by the command line fails in two ways only: its settings file is there but is of no use, or
its report cannot be written to where it is wanted. Whatever else may be wrong, with the submitted
files, the rules of the settings, the manifest or the tools, becomes part of the report; then the
exit status tells whether the solution passed.
-/
namespace FixGrader

/-- A settings file that is there but is of no use: it cannot be read, or does not hold settings. -/
def SettingsFile.Broken (disk : Disk) (path : Path) : Prop :=
  disk.exists? path = true ∧ ((∃ e, disk.readText path = .error e) ∨
    ∃ text e, disk.readText path = .ok text ∧ ofText text = .error e)

theorem SettingsFile.load_error_iff {disk : Disk} {path : Path} :
    (∃ e, load disk path = .error e) ↔ Broken disk path := by
  unfold load Broken
  cases disk.exists? path with
  | false => simp
  | true =>
    cases disk.readText path with
    | error e => simp
    | ok text => cases parsed : ofText text <;> simp [parsed]

namespace CommandLine

def CheckArguments.submission (a : CheckArguments) (disk : Disk) : Submission where
  challengeId := a.challenge
  category := a.category
  files := a.files.map (absolute disk)
  content := Submission.contentOf disk (a.files.map (absolute disk))
  workspace := a.workspace.map (absolute disk)

/-- What comes of a check under some settings, and the files afterwards: the result of a validation,
or the verdict of the quick check where the rules of the settings cannot be used. -/
def answer (env : Environment) (settings : Settings) (a : CheckArguments) (disk : Disk) :
    CheckOutcome × Disk :=
  match Validator.ofSettings settings with
  | .ok v =>
    let validated := (v.validate env.runner env.now (a.submission disk)).run (.ofDisk disk)
    (.full validated.1 (.ofValidation validated.1), validated.2.disk)
  | .error _ => (.degraded (QuickCheck.check a.category (a.submission disk).content), disk)

section Check
variable (env : Environment) (settings : Settings) (a : CheckArguments) (disk : Disk)

/-- The challenge that is worked on in a check that is carried out once. -/
def challengeOf : ActiveChallenge where
  challengeId := a.challenge
  category := a.category
  workspace := a.workspace.map (absolute disk)
  files := a.files.map (absolute disk)
  attempt := { Attempt.new env.attemptId a.challenge with
    status := .inProgress, startedAt := some env.now }

theorem sessionFor_eq :
    sessionFor env disk a = .ok ⟨some (challengeOf env a disk)⟩ := Session.start?_eq _ _ _ _ _ _

/-- Reading the files gives the submission, and changes nothing. -/
theorem submission_run :
    ((Session.submission (challengeOf env a disk)).run (.ofDisk disk)).1 = a.submission disk ∧
      World.Same (.ofDisk disk)
        ((Session.submission (challengeOf env a disk)).run (.ofDisk disk)).2 :=
  ⟨Session.submission_read _ _, Session.submission_same _ _⟩

/-- Each call that a check under some settings makes ends: those that its validation makes by the
protocol, in the order and with the files that the calls before leave. -/
def CallsEnd (env : Environment) (settings : Settings) (a : CheckArguments) (disk : Disk) : Prop :=
  ∀ v ws, Validator.ofSettings settings = .ok v →
    Workspace.resolve (a.submission disk).workspace (a.submission disk).files = some ws →
    ∃ linting auditing, v.Protocol env.runner ws (.ofDisk disk) linting auditing ∧
      env.runner.endsAll [] (v.filesPrepared ws disk) (linting ++ auditing) = true

/-- A validation ends if the calls of the check do, also when the submission has been read before. -/
theorem validate_callsEnd {v : Validator} {w : World}
    (usable : Validator.ofSettings settings = .ok v) (same : World.Same (.ofDisk disk) w) :
    ((v.validate env.runner env.now (a.submission disk)).run w).2.ends = true ↔
      CallsEnd env settings a disk := by
  unfold CallsEnd
  rw [Validator.validate_ends_iff, usable]
  constructor
  · rintro ⟨-, all⟩ _ ws ⟨⟩ resolved
    obtain ⟨linting, auditing, protocol, ended⟩ := all ws resolved
    rw [same.disk, same.calls] at ended
    exact ⟨linting, auditing, protocol.of_same same.symm, ended⟩
  · refine fun all => ⟨same.ends, fun ws resolved => ?_⟩
    obtain ⟨linting, auditing, protocol, ended⟩ := all v ws rfl resolved
    rw [same.disk, same.calls]
    exact ⟨linting, auditing, protocol.of_same same, ended⟩

/-- The session that a check is carried out in always answers, if its calls end. -/
theorem checkWith_answers {session : Session} (begun : sessionFor env disk a = .ok session) :
    ((session.checkWith settings env.runner env.now).run (.ofDisk disk)).1.1 =
        .ok (answer env settings a disk).1 ∧
      ((session.checkWith settings env.runner env.now).run (.ofDisk disk)).2.disk =
        (answer env settings a disk).2 ∧
      (((session.checkWith settings env.runner env.now).run (.ofDisk disk)).2.ends = true ↔
        CallsEnd env settings a disk) := by
  obtain rfl : ⟨some (challengeOf env a disk)⟩ = session := by
    rw [sessionFor_eq] at begun
    exact Except.ok.inj begun
  have uncompleted : (challengeOf env a disk).attempt.status ≠ .completed := by
    intro completed
    cases completed
  -- reading the submission changes nothing, so that both sides check it in one and the same world
  obtain ⟨value, same⟩ := submission_run env a disk
  unfold Session.checkWith Session.check answer
  cases usable : Validator.ofSettings settings with
  | error e =>
    obtain ⟨outcome, after⟩ := Session.checkBuilding_degraded (w := .ofDisk disk)
      (s := ⟨some (challengeOf env a disk)⟩) rfl uncompleted
      (pure (.error (Failure.ofRuleError e))) rfl env.runner env.now
    rw [value] at outcome
    have left := same.trans after
    refine ⟨outcome, left.disk, iff_of_true left.ends ?_⟩
    intro v ws accepted
    rw [usable] at accepted
    cases accepted
  | ok v =>
    obtain ⟨outcome, after⟩ := Session.checkBuilding_full (w := .ofDisk disk)
      (s := ⟨some (challengeOf env a disk)⟩) rfl uncompleted
      (pure (.ok v)) rfl env.runner env.now
    obtain ⟨result, left⟩ := Validator.validate_unheeding v env.runner env.now (a.submission disk)
      _ _ same.alike
    rw [value, result] at outcome
    rw [value] at after
    have ends := validate_callsEnd env settings a disk usable same
    exact ⟨outcome, (congrArg World.disk after).trans left.disk,
      (Eq.congr_left (congrArg World.ends after)).trans ends⟩

def reportOf : String := (answer env settings a disk).1.render (formatFor a.format).1

/-- A report that cannot be written to where it is wanted. -/
def Undelivered : Prop :=
  ∃ settings path e, loadSettings disk a.config = .ok settings ∧ a.output = some path ∧
    (answer env settings a disk).2.writeText path (reportOf env settings a disk) = .error e

/-- A check whose report is printed, or written to where it is wanted, and whose exit status tells
whether the solution passed, as the report itself does. -/
structure Reported (result : Result) : Prop where
  loaded : loadSettings disk a.config = .ok settings
  shown : (answer env settings a disk).1.Shown ((Report.Format.ofWord? a.format).getD .console)
    (reportOf env settings a disk)
  printed : a.output = none →
    result.stdout = reportOf env settings a disk ∧ result.disk = (answer env settings a disk).2
  written : ∀ path, a.output = some path → result.stdout = "" ∧
    (answer env settings a disk).2.writeText path (reportOf env settings a disk) = .ok result.disk ∧
    ∃ place readable executable, result.disk.locate path = .ok place ∧
      result.disk.entry? place = some (.file (Text.toBytes (reportOf env settings a disk)) readable
        true executable)
  status : result.exitStatus = if (answer env settings a disk).1.passed then 0 else 1
  full : ∀ v progress, (answer env settings a disk).1 = .full v progress →
    (result.exitStatus = 0 ↔ v.passed = true)
  quick : ∀ verdict, (answer env settings a disk).1 = .degraded verdict →
    (result.exitStatus = 0 ↔ verdict.passed = true)
  told : ∀ o, CheckOutcome.Comparable (answer env settings a disk).1 o →
    o.Shown ((Report.Format.ofWord? a.format).getD .console) (reportOf env settings a disk) →
    (result.exitStatus = 0 ↔ o.passed = true)

theorem formatFor_fst (word : String) :
    (formatFor word).1 = (Report.Format.ofWord? word).getD .console := by
  unfold formatFor
  cases Report.Format.ofWord? word <;> rfl

/-- The outcome of a check is one that its report shows. -/
theorem answer_shown : (answer env settings a disk).1.Shown
    ((Report.Format.ofWord? a.format).getD .console) (reportOf env settings a disk) := by
  rw [reportOf, formatFor_fst]
  unfold answer
  cases Validator.ofSettings settings with
  | error e => exact CheckOutcome.shown_degraded _ _
  | ok v =>
    refine CheckOutcome.shown_full _ _ fun time words => ?_
    rw [(v.validate_run env.runner (a.submission disk) (.ofDisk disk) env.now).1] at time words ⊢
    exact (Validation.ofOutcomes_written (v.stages_recorded env.runner (a.submission disk) _) time
      words).ofText (by decide)

variable {env settings a disk}

theorem check_broken (env : Environment) {e : Failure}
    (broken : loadSettings disk a.config = .error e) (filter : Log.Filter) :
    (check env filter a disk).exitStatus = 2 ∧ (check env filter a disk).ends = true := by
  unfold check
  rw [broken]
  exact ⟨rfl, rfl⟩

theorem check_loaded (env : Environment)
    (loaded : loadSettings disk a.config = .ok settings) (filter : Log.Filter) :
    ((check env filter a disk).ends = true ↔ CallsEnd env settings a disk) ∧
    (∀ e, deliver (answer env settings a disk).2 a.output
        (reportOf env settings a disk) = .error e →
      (check env filter a disk).exitStatus = 2) ∧
    ∀ stdout disk', deliver (answer env settings a disk).2 a.output
        (reportOf env settings a disk) = .ok (stdout, disk') →
      (check env filter a disk).stdout = stdout ∧ (check env filter a disk).disk = disk' ∧
        (check env filter a disk).exitStatus =
          if (answer env settings a disk).1.passed then 0 else 1 := by
  have begun := sessionFor_eq env a disk
  obtain ⟨outcome, left, ends⟩ := checkWith_answers env settings a disk begun
  unfold reportOf check
  simp only [loaded, begun]
  revert outcome left ends
  generalize (Session.checkWith _ settings env.runner env.now).run (.ofDisk disk) = ran
  obtain ⟨⟨_, session⟩, w⟩ := ran
  rintro rfl left ends
  rw [← left]
  refine ⟨?_, fun e undelivered => ?_, fun stdout disk' delivered => ?_⟩
  · rw [← ends]
    dsimp only
    split <;> rfl
  · simp only [undelivered]
    rfl
  · simp only [delivered, and_self]

theorem callsEnd_of_alwaysEnds (always : env.runner.AlwaysEnds) :
    CallsEnd env settings a disk := by
  intro v ws usable resolved
  obtain ⟨nothing, -⟩ | ⟨ws', linting, auditing, resolved', protocol, -⟩ :=
    v.validate_protocol env.runner env.now (a.submission disk) (.ofDisk disk)
  · rw [Workspace.resolve_none.mpr nothing] at resolved
    cases resolved
  · cases resolved.symm.trans resolved'
    exact ⟨linting, auditing, protocol, always.endsAll _ _ _⟩

/-- With tools whose calls all end, each check ends. -/
theorem check_ends (always : env.runner.AlwaysEnds) (verbose : Bool) :
    (run env verbose (.check a) disk).ends = true := by
  change (check env _ a disk).ends = true
  cases loaded : loadSettings disk a.config with
  | error e => exact (check_broken env loaded _).2
  | ok settings => exact (check_loaded env loaded _).1.mpr (callsEnd_of_alwaysEnds always)

/-- So it does with the programs of this system. -/
theorem check_ends_here (verbose : Bool) :
    (run { env with runner := Host.runner } verbose (.check a) disk).ends = true :=
  check_ends Host.runner_alwaysEnds verbose

theorem deliver_error_iff {output : Option Path} {report : String} {e : FileError} :
    deliver disk output report = .error e ↔
      ∃ path, output = some path ∧ disk.writeText path report = .error e := by
  cases output with
  | none => simp [deliver]
  | some path => cases written : disk.writeText path report <;> simp [deliver, written, Except.map]

theorem deliver_ok_iff {output : Option Path} {report stdout : String} {disk' : Disk} :
    deliver disk output report = .ok (stdout, disk') ↔
      (output = none ∧ stdout = report ∧ disk' = disk) ∨
        ∃ path, output = some path ∧ stdout = "" ∧ disk.writeText path report = .ok disk' := by
  cases output with
  | none => simp [deliver, eq_comm]
  | some path =>
    cases written : disk.writeText path report <;> simp [deliver, written, Except.map, eq_comm]

theorem undelivered_iff (loaded : loadSettings disk a.config = .ok settings) :
    Undelivered env a disk ↔ ∃ e, deliver (answer env settings a disk).2 a.output
      (reportOf env settings a disk) = .error e := by
  simp only [deliver_error_iff]
  constructor
  · rintro ⟨settings', path, e, loaded', wanted, failed⟩
    cases loaded.symm.trans loaded'
    exact ⟨e, path, wanted, failed⟩
  · rintro ⟨e, path, wanted, failed⟩
    exact ⟨settings, path, e, loaded, wanted, failed⟩

/-- A result with what was delivered and the status of the answer is a report on the check. -/
theorem reported_of_delivered {result : Result} {stdout : String} {disk' : Disk}
    (loaded : loadSettings disk a.config = .ok settings)
    (delivery : deliver (answer env settings a disk).2 a.output
      (reportOf env settings a disk) = .ok (stdout, disk'))
    (shown : result.stdout = stdout) (left : result.disk = disk')
    (status : result.exitStatus = if (answer env settings a disk).1.passed then 0 else 1) :
    Reported env settings a disk result := by
  subst shown left
  have zero : result.exitStatus = 0 ↔ (answer env settings a disk).1.passed = true := by
    rw [status]
    split <;> simp_all
  have full : ∀ v progress, (answer env settings a disk).1 = .full v progress →
      (result.exitStatus = 0 ↔ v.passed = true) := by
    intro v progress same
    rw [zero, same]
    rfl
  have quick : ∀ verdict, (answer env settings a disk).1 = .degraded verdict →
      (result.exitStatus = 0 ↔ verdict.passed = true) := by
    intro verdict same
    rw [zero, same]
    rfl
  have told : ∀ o, CheckOutcome.Comparable (answer env settings a disk).1 o →
      o.Shown ((Report.Format.ofWord? a.format).getD .console) (reportOf env settings a disk) →
      (result.exitStatus = 0 ↔ o.passed = true) := by
    intro o comparable shown
    rw [zero, (answer_shown env settings a disk).passed_eq comparable shown]
  rcases deliver_ok_iff.mp delivery with ⟨nowhere, report, files⟩ | ⟨path, wanted, silent, report⟩
  · refine ⟨loaded, answer_shown env settings a disk, fun _ => ⟨report, files⟩, ?_, status, full,
      quick, told⟩
    intro path wanted
    rw [nowhere] at wanted
    cases wanted
  · refine ⟨loaded, answer_shown env settings a disk, fun nowhere => ?_, ?_, status, full, quick,
      told⟩
    · rw [wanted] at nowhere
      cases nowhere
    · intro path' wanted'
      rw [wanted] at wanted'
      cases wanted'
      obtain ⟨-, -, place, readable, executable, found, entry, -⟩ := Disk.writeText_ok report
      exact ⟨silent, report, place, readable, executable, found, entry⟩

end Check

/-- A check ends exactly if its settings file is of no use or each call of a tool that it makes ends.
Its exit status is two then exactly if its settings file is there but is of no use, or if its report
cannot be written. Otherwise it reports the result of a validation, or the verdict of the quick
check, and its exit status is zero if the report says that the solution passed, and else one. -/
theorem check_exitStatus (env : Environment) (verbose : Bool) (a : CheckArguments) (disk : Disk) :
    ((run env verbose (.check a) disk).ends = true ↔
      ∀ settings, loadSettings disk a.config = .ok settings → CallsEnd env settings a disk) ∧
    ((run env verbose (.check a) disk).ends = true →
      ((run env verbose (.check a) disk).exitStatus = 2 ↔
        SettingsFile.Broken disk (a.config.getD ⟨SettingsFile.name⟩) ∨ Undelivered env a disk) ∧
      ((run env verbose (.check a) disk).exitStatus ≠ 2 →
        ∃ settings, Reported env settings a disk (run env verbose (.check a) disk))) := by
  rw [← SettingsFile.load_error_iff]
  change ((check env _ a disk).ends = true ↔ _) ∧ ((check env _ a disk).ends = true →
    ((check env _ a disk).exitStatus = 2 ↔ (∃ e, loadSettings disk a.config = .error e) ∨ _) ∧
    ((check env _ a disk).exitStatus ≠ 2 → _))
  cases loaded : loadSettings disk a.config with
  | error e =>
    obtain ⟨two, ended⟩ := check_broken env loaded (filterFor env.log verbose)
    refine ⟨iff_of_true ended (by simp), fun _ => ⟨?_, fun other => absurd two other⟩⟩
    exact iff_of_true two (Or.inl ⟨e, rfl⟩)
  | ok settings =>
    obtain ⟨ends, failed, delivered⟩ := check_loaded env loaded (filterFor env.log verbose)
    refine ⟨by simpa using ends, fun _ => ?_⟩
    rw [undelivered_iff loaded]
    cases delivery : deliver (answer env settings a disk).2 a.output
        (reportOf env settings a disk) with
    | error e =>
      have two := failed e delivery
      exact ⟨⟨fun _ => Or.inr ⟨e, rfl⟩, fun _ => two⟩, fun other => absurd two other⟩
    | ok written =>
      obtain ⟨stdout, disk', status⟩ := delivered written.1 written.2 delivery
      rw [status]
      refine ⟨⟨fun two => ?_, ?_⟩, fun _ => ⟨settings, ?_⟩⟩
      · split at two <;> cases two
      · rintro (⟨e, broken⟩ | ⟨e, broken⟩) <;> cases broken
      · exact reported_of_delivered loaded delivery stdout disk' status

end CommandLine

end FixGrader
