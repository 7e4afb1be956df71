import FixGrader.Challenge.Session
import FixGrader.Proofs.Lint.Traces
import FixGrader.Proofs.Validation.Files
/-!
# What a validation changes

A validation changes no more of the files than its preparation for the linter, and a session whose
check is only a quick one changes nothing and calls nothing.
-/
namespace FixGrader

theorem Validator.confined_of_resolved {runner : Runner} (silent : runner.WritesNothing)
    (v : Validator) (now : Timestamp) (s : Submission) (w : World) {ws : Workspace}
    (resolved : Workspace.resolve s.workspace s.files = some ws) :
    Lint.Setup.Confined ws.root w.disk ((v.validate runner now s).run w).2.disk := by
  rw [validate_files silent, resolved]
  rcases LintStage.decision_files v.tools ws w.disk with same | prepared
  · rw [same]
    exact .refl ws.root w.disk
  · rw [prepared]
    exact Lint.Setup.ensure_confined rfl

theorem Submission.noteUnreadable_same (path : Path) (w : World) :
    World.Same w ((noteUnreadable path).run w).2 := by
  unfold noteUnreadable
  rw [Run.run_bind, Run.run_disk]
  split
  · exact .rfl
  · exact Run.note_same _ _ _ _ w

theorem Submission.read_same (challengeId category : String) (files : List Path) (w : World) :
    World.Same w ((read challengeId category files).run w).2 := by
  unfold read
  rw [Run.run_bind]
  change World.Same w ((files.forM noteUnreadable).run w).2
  induction files generalizing w with
  | nil => exact .rfl
  | cons path files ih =>
    change World.Same w ((noteUnreadable path >>= fun _ => files.forM noteUnreadable).run w).2
    rw [Run.run_bind]
    exact (noteUnreadable_same path w).trans (ih _)

/-- What is read are the files as they are. -/
theorem Submission.read_run (challengeId category : String) (files : List Path) (w : World) :
    ((read challengeId category files).run w).1 = ofFiles w.disk challengeId category files :=
  congrArg (ofFiles · challengeId category files) (read_same challengeId category files w).1

theorem Session.submission_same (active : ActiveChallenge) (w : World) :
    World.Same w ((submission active).run w).2 :=
  Submission.read_same active.challengeId active.category active.files w

/-- The submission of the active challenge, of the files as a check finds them. -/
theorem Session.submission_read (active : ActiveChallenge) (w : World) :
    ((submission active).run w).1 =
      { Submission.ofFiles w.disk active.challengeId active.category active.files with
        workspace := active.workspace } := by
  unfold submission
  rw [Run.run_bind, Submission.read_run]
  rfl

/-- Where no validator can be made, a check reads the files and notes events. -/
theorem Session.check_unbuilt (session : Session) (e : Failure) (runner : Runner)
    (now : Timestamp) (w : World) :
    World.Same w ((session.check (.error e) runner now).run w).2 := by
  unfold check checkBuilding
  cases session.open? with
  | error e => exact .rfl
  | ok active =>
    simp only [Run.run_bind]
    exact (submission_same active w).trans (Run.note_same _ _ _ _ _)

/-- A check with a validator is answered in full, or refused. -/
theorem Session.check_built (session : Session) (validator : Validator) (runner : Runner)
    (now : Timestamp) (w : World) (verdict : QuickCheck.Verdict) :
    ((session.check (.ok validator) runner now).run w).1.1 ≠ .ok (.degraded verdict) := by
  unfold check checkBuilding
  cases session.open? with
  | error e =>
    intro same
    cases same
  | ok active =>
    simp only [Run.run_bind]
    split
    · rw [Run.run_bind]
      split
      · intro same
        cases same
      · intro same
        cases same
    · rename_i built
      cases built

/-- With tools that write nothing themselves, a validation changes no place but those of the
configuration and of the manifest of its workspace. It makes the configuration where there is none,
and writes the manifest only where there is none or one of the linter's packages is missing; where
the linter is not to be run, or there are no files, it changes nothing at all. A check of a session
that ends as a quick check writes nothing, and calls no program. -/
theorem validate_confined (v : Validator) (runner : Runner) (silent : runner.WritesNothing)
    (now : Timestamp) (s : Submission) (w : World) :
    (v.tools.lint = false ∨ s.files = [] → ((v.validate runner now s).run w).2.disk = w.disk) ∧
    (∀ ws, Workspace.resolve s.workspace s.files = some ws →
      Lint.Setup.Confined ws.root w.disk ((v.validate runner now s).run w).2.disk) ∧
    ∀ (session session' : Session) (settings : Settings) (runner : Runner) (now : Timestamp)
      (w : World) (verdict : QuickCheck.Verdict),
      ((session.checkWith settings runner now).run w).1 = (.ok (.degraded verdict), session') →
      ((session.checkWith settings runner now).run w).2.disk = w.disk ∧
        ((session.checkWith settings runner now).run w).2.calls = w.calls := by
  refine ⟨?_, ?_, ?_⟩
  · intro idle
    rw [Validator.validate_files silent]
    exact LintStage.decision_kept (idle.imp_right Workspace.resolve_none.mpr) w.disk
  · intro ws resolved
    exact Validator.confined_of_resolved silent v now s w resolved
  · intro session session' settings runner now w verdict degraded
    unfold Session.checkWith at degraded ⊢
    revert degraded
    cases (Validator.ofSettings settings).mapError Failure.ofRuleError with
    | error e =>
      have unbuilt := session.check_unbuilt e runner now w
      exact fun _ => ⟨unbuilt.disk, unbuilt.calls⟩
    | ok validator =>
      intro degraded
      exact absurd (congrArg Prod.fst degraded)
        (session.check_built validator runner now w verdict)

def bareWorkspace : World :=
  .ofDisk ⟨[(["w"], .directory true),
    (["w", "a.js"], .file (Text.toBytes "eval(s)") true false false),
    (["w", "package.json"], .file (Text.toBytes "\x7b\x7d") true true false)], []⟩

def bareSubmission : Submission := ⟨"challenge", "xss", [⟨"/w/a.js"⟩], "eval(s)", some ⟨"/w"⟩⟩

def absentTools : Runner := .scripted []

/-- Settings with a name that stands for no rule set. -/
def danglingSettings : Settings := { rules := { aliases := .ofList [("sqli2", "nowhere")] } }

def bareSession : Session := Session.new.start "attempt" default "challenge" "xss" none [⟨"/w/a.js"⟩]

/-- The manifest is completed and the configuration made, and the file stays as it is; with settings
that cannot be used, nothing is written. -/
theorem validate_confined_bare :
    (((Validator.validate ⟨default, .standard⟩ absentTools default bareSubmission).run
      bareWorkspace).2.disk.readText ⟨"/w/package.json"⟩).toOption =
        some ("\x7b\n  \"devDependencies\": \x7b\n    \"eslint\": \"^8.57.0\",\n" ++
          "    \"eslint-plugin-security\": \"^1.7.1\"\n  \x7d\n\x7d\n") ∧
    ((Validator.validate ⟨default, .standard⟩ absentTools default bareSubmission).run
      bareWorkspace).2.disk.entry? ["w", "a.js"] =
        some (.file (Text.toBytes "eval(s)") true false false) ∧
    ((bareSession.checkWith danglingSettings absentTools default).run bareWorkspace).2.disk =
      bareWorkspace.disk := by
  obtain ⟨-, confined, degraded⟩ := validate_confined ⟨default, .standard⟩ absentTools
    (fun _ _ _ => rfl) default bareSubmission bareWorkspace
  refine ⟨by decide +kernel, ?_, ?_⟩
  · rw [(confined _ rfl).others ["w", "a.js"] (by decide +kernel) (by decide +kernel)]
    rfl
  · exact (degraded bareSession _ danglingSettings absentTools default bareWorkspace _ rfl).1

end FixGrader
