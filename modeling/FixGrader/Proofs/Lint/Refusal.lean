import FixGrader.Proofs.Grading.Exact
import FixGrader.Proofs.Lint.Traces
import FixGrader.Proofs.Stage.Course
/-!
# Manifests that are refused

A manifest that is there but has no place for the packages of the linter is told as an error and not
written to. At most the configuration is made before. The stage then ends in part, without a call of
any program.
-/
namespace FixGrader

def Disk.SameAt (p : Path) (d d' : Disk) : Prop :=
  d'.locate p = d.locate p ∧ ∀ place, d.locate p = .ok place → d'.entry? place = d.entry? place

namespace Lint.Setup
variable {d d' : Disk} {root : Path} {e : Error}

/-- Why the packages of the linter cannot be put into a manifest, and the error that tells so. -/
inductive Unmergeable (d : Disk) (root : Path) : Error → Prop where
  | unreadable {e : FileError} (there : d.exists? (root.join ⟨Manifest.fileName⟩) = true)
      (unread : d.readText (root.join ⟨Manifest.fileName⟩) = .error e) :
      Unmergeable d root (.file e)
  | malformed {text : String} {e : Json.Error}
      (read : d.readText (root.join ⟨Manifest.fileName⟩) = .ok text)
      (garbled : Json.ofText text = .error e) :
      Unmergeable d root (.manifest (root.join ⟨Manifest.fileName⟩) e.message)
  | noObject {text : String} {j : Json}
      (read : d.readText (root.join ⟨Manifest.fileName⟩) = .ok text)
      (parsed : Json.ofText text = .ok j) (other : j.members? = none) :
      Unmergeable d root
        (.manifest (root.join ⟨Manifest.fileName⟩) "top-level value is not an object")
  | noDependencies {text : String} {members : List (String × Json)} {value : Json}
      (read : d.readText (root.join ⟨Manifest.fileName⟩) = .ok text)
      (parsed : Json.ofText text = .ok (.object members))
      (found : Json.find? Manifest.developmentKey members = some value)
      (other : value.members? = none) :
      Unmergeable d root
        (.manifest (root.join ⟨Manifest.fileName⟩) "devDependencies is not an object")

/-- The manifest is the same as before, and so is a configuration that was there. -/
structure Spares (root : Path) (d d' : Disk) : Prop where
  manifest : Disk.SameAt (root.join ⟨Manifest.fileName⟩) d d'
  config : d.exists? (root.join ⟨configName⟩) = true → Disk.SameAt (root.join ⟨configName⟩) d d'

theorem Spares.refl (root : Path) (d : Disk) : Spares root d d :=
  ⟨⟨rfl, fun _ _ => rfl⟩, fun _ => ⟨rfl, fun _ _ => rfl⟩⟩

theorem writeConfig_spares {wrote : Bool} (h : writeConfig d root = .ok (d', wrote)) :
    Spares root d d' := by
  obtain ⟨located, -⟩ := writeConfig_manifest h
  obtain ⟨rfl, -⟩ | ⟨absent, write⟩ := writeConfig_cases h
  · exact .refl root d'
  · obtain ⟨-, others⟩ := Disk.writeText_others write
    obtain ⟨base, found, sibling, -⟩ := Disk.writeText_sibling_places (a := configName)
      (b := Manifest.fileName) (by decide) (by decide) write
    constructor
    · refine ⟨located, fun place here => others place ?_⟩
      rw [sibling] at here
      cases here
      rw [found]
      exact fun same => config_ne_manifest base (Except.ok.inj same)
    · intro there
      rw [absent] at there
      cases there

/-- A manifest is refused for the same reason when the configuration was written. -/
theorem Unmergeable.congr (h : Unmergeable d root e)
    (text : d'.readText (root.join ⟨Manifest.fileName⟩) = d.readText (root.join ⟨Manifest.fileName⟩))
    (there : d'.exists? (root.join ⟨Manifest.fileName⟩) =
      d.exists? (root.join ⟨Manifest.fileName⟩)) : Unmergeable d' root e := by
  cases h with
  | unreadable present unread => exact .unreadable (there.trans present) (text.trans unread)
  | malformed read garbled => exact .malformed (text.trans read) garbled
  | noObject read parsed other => exact .noObject (text.trans read) parsed other
  | noDependencies read parsed found other =>
    exact .noDependencies (text.trans read) parsed found other

theorem completeManifest_refused (h : Unmergeable d root e) (wrote : Bool) :
    completeManifest d root wrote = (.error e, d) := by
  unfold completeManifest manifestMembers
  cases h with
  | unreadable there unread => simp only [there, unread, if_true]
  | malformed read garbled => simp only [exists_of_readText read, read, garbled, if_true]
  | @noObject _ j read parsed other =>
    cases j with
    | object => cases other
    | _ => simp only [exists_of_readText read, read, parsed, if_true]
  | noDependencies read parsed found other =>
    simp only [exists_of_readText read, read, parsed, Manifest.development?, found, other, if_true]

/-- The error is the one about the manifest, unless the configuration cannot be written before. -/
theorem ensure_refused (h : Unmergeable d root e) :
    ∃ e' d', ensure d root = (.error e', d') ∧
      (e' = e ∨ ∃ error, writeConfig d root = .error error ∧ e' = .file error) ∧
      Spares root d d' := by
  cases config : writeConfig d root with
  | error error =>
    refine ⟨.file error, d, ?_, Or.inr ⟨error, rfl, rfl⟩, .refl root d⟩
    rw [ensure, config]
  | ok written =>
    obtain ⟨d₁, wrote⟩ := written
    obtain ⟨-, text, there⟩ := writeConfig_manifest config
    refine ⟨e, d₁, ?_, Or.inl rfl, writeConfig_spares config⟩
    rw [ensure, config]
    exact completeManifest_refused (h.congr text there) wrote

end Lint.Setup

open Lint.Setup

/-- Whether or not it is to lint at all, the stage calls nothing over a refused manifest. -/
theorem LintStage.decision_refused (settings : ToolSettings) {root : Path} (files : List Path)
    {disk : Disk} {e : Lint.Setup.Error} (h : Unmergeable disk root e) :
    ∃ reason disk', decision settings (some ⟨root, files⟩) disk =
        (some (partialOutcome reason), disk') ∧ Spares root disk disk' := by
  cases lint : settings.lint with
  | false => exact ⟨_, disk, decision_disabled lint _ disk, .refl root disk⟩
  | true =>
    obtain ⟨e', disk', failed, -, spares⟩ := ensure_refused h
    exact ⟨_, disk', decision_unprepared lint failed, spares⟩

structure LintStage.HalfCredit (o : StageOutcome) : Prop where
  points : o.points.value? = some (25 / 2 : ℚ)
  passed : o.check.passed = true
  isPartial : o.check.isPartial = true
  issues : o.issues = []

theorem LintStage.partialOutcome_halfCredit (reason : String) :
    HalfCredit (partialOutcome reason) :=
  ⟨Scoring.lintPartialPoints_value, rfl, rfl, rfl⟩

/-- A manifest that the packages of the linter cannot be put into is refused and left alone, and the
stage yields half of its points without calling a program. -/
theorem refused_of_unmergeable : ∀ (d : Disk) (root : Path) (e : Lint.Setup.Error),
    Unmergeable d root e →
    (∃ e' d', ensure d root = (.error e', d') ∧
      (e' = e ∨ ∃ error, writeConfig d root = .error error ∧ e' = .file error) ∧
      Spares root d d') ∧
    ∀ (runner : Runner) (settings : ToolSettings) (files : List Path) (w : World), w.disk = d →
      LintStage.HalfCredit ((LintStage.run runner settings (some ⟨root, files⟩)).run w).1 ∧
        ((LintStage.run runner settings (some ⟨root, files⟩)).run w).2.calls = w.calls ∧
        Spares root d ((LintStage.run runner settings (some ⟨root, files⟩)).run w).2.disk := by
  intro d root e refused
  refine ⟨ensure_refused refused, ?_⟩
  rintro runner settings files w rfl
  obtain ⟨reason, disk, decided, spares⟩ := LintStage.decision_refused settings files refused
  obtain ⟨value, files_same, calls_same⟩ := LintStage.run_settled runner decided
  rw [value, files_same]
  exact ⟨LintStage.partialOutcome_halfCredit reason, calls_same, spares⟩

def listedText : String := "\x7b\"name\": \"x\", \"devDependencies\": []\x7d"

def listedDisk : Disk :=
  ⟨[(["w"], .directory true),
    (["w", "package.json"], .file (Text.toBytes listedText) true true false)], []⟩

theorem listedDisk_unmergeable : Unmergeable listedDisk ⟨"/w"⟩
    (.manifest (Path.join ⟨"/w"⟩ ⟨Manifest.fileName⟩) "devDependencies is not an object") := by
  have read : listedDisk.readText (Path.join ⟨"/w"⟩ ⟨Manifest.fileName⟩) = .ok listedText := by
    decide +kernel
  have parsed : Json.ofText listedText =
      .ok (.object [("name", .string "x"), ("devDependencies", .array [])]) := by
    cbv
  exact .noDependencies read parsed rfl rfl

theorem refused_of_unmergeable_listed :
    (∃ e d', ensure listedDisk ⟨"/w"⟩ = (.error e, d') ∧ Spares ⟨"/w"⟩ listedDisk d') ∧
      LintStage.HalfCredit ((LintStage.run (.scripted []) .standard
        (some ⟨⟨"/w"⟩, [⟨"/w/a.js"⟩]⟩)).run (.ofDisk listedDisk)).1 := by
  obtain ⟨⟨e, d', failed, -, spares⟩, stage⟩ :=
    refused_of_unmergeable listedDisk ⟨"/w"⟩ _ listedDisk_unmergeable
  exact ⟨⟨e, d', failed, spares⟩, (stage (.scripted []) .standard [⟨"/w/a.js"⟩] _ rfl).1⟩

end FixGrader
