import FixGrader.Proofs.Challenge.Reach
import FixGrader.Proofs.Session.History
import Mathlib.Data.List.Forall2
/-!
# What a session submits

A session keeps what it was started with and reads the files anew for each check. What it submits is
the same as what is read of the challenge itself, however often it was restarted or checked in vain
before: the texts of the files as they are, and nothing for those that have none.
-/
namespace FixGrader

/-- What a file contributes to a submission: its text, or nothing if it has none. -/
inductive Contribution (d : Disk) (p : Path) : String → Prop where
  | text {text : String} (read : d.readBytes p = .ok (Text.toBytes text)) : Contribution d p text
  | unread {e : FileError} (failed : d.readBytes p = .error e) : Contribution d p ""
  | foreign {bytes : ByteArray} (read : d.readBytes p = .ok bytes)
      (noText : ∀ text, bytes ≠ Text.toBytes text) : Contribution d p ""

theorem contribution_iff {d : Disk} {p : Path} {text : String} :
    Contribution d p text ↔ Submission.textOf d p = text := by
  rw [Submission.textOf_readBytes]
  constructor
  · intro contributed
    cases contributed with
    | text read =>
      rw [read]
      exact congrArg (·.getD "") (Text.ofBytes_toBytes text)
    | unread failed => rw [failed]
    | foreign read noText =>
      have unknown : Text.ofBytes? _ = none := Option.eq_none_iff_forall_ne_some.mpr
        fun text known => noText text (Text.ofBytes?_eq_some_iff.mp known)
      rw [read]
      exact congrArg (·.getD "") unknown
  · rintro rfl
    cases read : d.readBytes p with
    | error e => exact .unread read
    | ok bytes =>
      dsimp only
      cases known : Text.ofBytes? bytes with
      | none =>
        refine .foreign read fun text same => ?_
        rw [Text.ofBytes?_eq_some_iff.mpr same] at known
        cases known
      | some text =>
        rw [Text.ofBytes?_eq_some_iff.mp known] at read
        exact .text read

theorem Submission.contributions (d : Disk) (files : List Path) :
    List.Forall₂ (Contribution d) files (files.map (textOf d)) := by
  rw [List.forall₂_map_right_iff, List.forall₂_same]
  exact fun p _ => contribution_iff.mpr rfl

namespace Session

/-- With a challenge that was started, and restarted and checked in vain, a check is one of what is
read of the challenge: its texts in their order, with a line break between them. -/
theorem startChallenge_checks {before later : List Operation} {id : String} {now : Timestamp}
    {c : Challenge} {workspace : Path} {past : List Exchange} {s : Session}
    (ran : run (before ++ .startChallenge id now c workspace :: later) = (past, s))
    (waits : ∀ op ∈ later, op.starts = false)
    (unpassed : ∀ last, (recorded past).head? = some last → last.passed = false) :
    (∃ active, s.open? = .ok active ∧ submission active = Submission.readChallenge c workspace) ∧
    (∀ build runner now w,
      ((s.checkBuilding build runner now).run w).1.1 =
        .ok ((checkOf (Submission.readChallenge c workspace) build runner now).run w).1 ∧
      ((s.checkBuilding build runner now).run w).2 =
        ((checkOf (Submission.readChallenge c workspace) build runner now).run w).2) ∧
    ∀ w, ((Submission.readChallenge c workspace).run w).1 =
        Submission.ofChallenge w.disk c workspace ∧
      World.Same w ((Submission.readChallenge c workspace).run w).2 ∧
      ∃ texts,
        List.Forall₂ (Contribution w.disk) (c.files.map fun f => workspace.join f.path) texts ∧
        Submission.ofChallenge w.disk c workspace = {
          challengeId := c.id
          category := c.category
          files := c.files.map fun f => workspace.join f.path
          content := String.intercalate "\n" texts
          workspace := some workspace } := by
  obtain ⟨active, held, reads⟩ := submission_readChallenge before id now c workspace waits
  have told := told_run (before ++ .startChallenge id now c workspace :: later) active held
  rw [ran] at held told
  have uncompleted : active.attempt.status ≠ .completed := by
    intro completed
    obtain ⟨last, first, passed⟩ := told.completed.mp completed
    rw [unpassed last first] at passed
    cases passed
  refine ⟨⟨active, open_active held uncompleted, reads⟩, ?_, ?_⟩
  · rw [← reads]
    exact checkBuilding_open held uncompleted
  · intro w
    obtain ⟨read, same⟩ := Submission.readChallenge_run c workspace w
    exact ⟨read, same, _, Submission.contributions w.disk (c.filePaths workspace), rfl⟩

def patchyChallenge : Challenge :=
  ⟨"challenge", "xss", "", "", [⟨⟨"a.js"⟩, ""⟩, ⟨⟨"gone.js"⟩, ""⟩, ⟨⟨"b.js"⟩, ""⟩], [], [], []⟩

def patchyWorkspace : World :=
  .ofDisk ⟨[(["w"], .directory true), (["w", "a.js"], .file (Text.toBytes "key") true true false),
    (["w", "b.js"], .file ⟨#[255]⟩ true true false)], []⟩

/-- A restart, a check for which no validator can be made, and one that finds no files and fails. -/
def vainOperations : List Operation := [
  .restart "second" default,
  .check (pure (.error .noActiveChallenge)) (.scripted []) default patchyWorkspace,
  .check (pure (.ok default)) (.scripted []) default (.ofDisk default)]

def vainRun : List Exchange × Session :=
  run (.startChallenge "first" default patchyChallenge ⟨"/w"⟩ :: vainOperations)

theorem startChallenge_checks_patchy :
    ((vainRun.2.check (.error .noActiveChallenge) (.scripted []) default).run patchyWorkspace).1.1 =
      .ok (.degraded (QuickCheck.check "xss" "key\n\n")) := by
  have ran : run ([] ++ .startChallenge "first" default patchyChallenge ⟨"/w"⟩ :: vainOperations) =
      (vainRun.1, vainRun.2) := rfl
  have waits : ∀ op ∈ vainOperations, op.starts = false := by decide +kernel
  have unpassed : ∀ last, (recorded vainRun.1).head? = some last → last.passed = false := by
    have failed : (recorded vainRun.1).map (·.passed) = [false] := by decide +kernel
    intro last first
    have listed := List.mem_map_of_mem (f := (·.passed)) (List.mem_of_head? first)
    rw [failed] at listed
    exact List.mem_singleton.mp listed
  have paths : patchyChallenge.filePaths ⟨"/w"⟩ = [⟨"/w/a.js"⟩, ⟨"/w/gone.js"⟩, ⟨"/w/b.js"⟩] := by
    decide +kernel
  have content : Submission.contentOf patchyWorkspace.disk
      [⟨"/w/a.js"⟩, ⟨"/w/gone.js"⟩, ⟨"/w/b.js"⟩] = "key\n\n" := by decide +kernel
  obtain ⟨-, answers, reads⟩ := startChallenge_checks ran waits unpassed
  rw [check, (answers _ _ _ _).1, ← content, ← paths]
  unfold checkOf
  rw [Run.run_bind, (reads patchyWorkspace).1]
  rfl

end Session

end FixGrader
