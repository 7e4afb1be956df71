import FixGrader.Proofs.Disk.Siblings
import FixGrader.Proofs.Lint.Preparation
/-!
# What preparing a workspace leaves behind

A preparation touches two files, the configuration and the manifest of the workspace, and no other
place. The configuration is only ever made. The manifest is written anew where there was none, or
where one of the linter's packages was missing; whoever reads it afterwards finds either what could
be read before, or the completed text.
-/
namespace FixGrader.Lint.Setup

/-- The manifest of a workspace can be read, and misses a package that the linter needs. -/
def MissesPackage (d : Disk) (root : Path) : Prop :=
  ∃ text members dependencies, d.readText (root.join ⟨Manifest.fileName⟩) = .ok text ∧
    Json.ofText text = .ok (.object members) ∧
    Manifest.development? members = some dependencies ∧
    ∃ p ∈ Manifest.linterPackages, Json.find? p.1 dependencies = none

/-- How the files may differ after a preparation. -/
structure Confined (root : Path) (d d' : Disk) : Prop where
  cwd_eq : d'.cwd = d.cwd
  others : ∀ place, d.locate (root.join ⟨configName⟩) ≠ .ok place →
    d.locate (root.join ⟨Manifest.fileName⟩) ≠ .ok place → d'.entry? place = d.entry? place
  config : ∀ place, d.locate (root.join ⟨configName⟩) = .ok place →
    d'.entry? place = d.entry? place ∨ d.entry? place = none ∧
      d'.entry? place = some (.file (Text.toBytes configuration.pretty) true true false)
  manifest : ∀ place, d.locate (root.join ⟨Manifest.fileName⟩) = .ok place →
    d'.entry? place = d.entry? place ∨ d.entry? place = none ∨ MissesPackage d root

theorem Confined.refl (root : Path) (d : Disk) : Confined root d d where
  cwd_eq := rfl
  others _ _ _ := rfl
  config _ _ := Or.inl rfl
  manifest _ _ := Or.inl rfl

theorem config_ne_manifest (base : Place) : base ++ [configName] ≠ base ++ [Manifest.fileName] :=
  fun same => absurd (List.append_cancel_left same) (by decide)

/-- The manifest does not notice that the configuration is written. -/
theorem writeConfig_manifest {d d' : Disk} {root : Path} {wrote : Bool}
    (h : writeConfig d root = .ok (d', wrote)) :
    d'.locate (root.join ⟨Manifest.fileName⟩) = d.locate (root.join ⟨Manifest.fileName⟩) ∧
      d'.readText (root.join ⟨Manifest.fileName⟩) = d.readText (root.join ⟨Manifest.fileName⟩) ∧
      d'.exists? (root.join ⟨Manifest.fileName⟩) = d.exists? (root.join ⟨Manifest.fileName⟩) := by
  obtain ⟨rfl, -⟩ | ⟨-, write⟩ := writeConfig_cases h
  · exact ⟨rfl, rfl, rfl⟩
  · have apart := Disk.writeText_sibling (a := configName) (b := Manifest.fileName)
      (by decide) (by decide) (by decide) write
    obtain ⟨base, -, before, after⟩ := Disk.writeText_sibling_places (a := configName)
      (b := Manifest.fileName) (by decide) (by decide) write
    exact ⟨after.trans before.symm, apart⟩

theorem writeConfig_confined {d d' : Disk} {root : Path} {wrote : Bool}
    (h : writeConfig d root = .ok (d', wrote)) : Confined root d d' := by
  obtain ⟨rfl, -⟩ | ⟨absent, write⟩ := writeConfig_cases h
  · exact .refl root d'
  obtain ⟨cwd, others⟩ := Disk.writeText_others write
  obtain ⟨base, found, sibling, -⟩ := Disk.writeText_sibling_places (a := configName)
    (b := Manifest.fileName) (by decide) (by decide) write
  obtain ⟨place, found', free, made⟩ := Disk.writeText_new write absent
  constructor
  · exact cwd
  · exact fun place elsewhere _ => others place elsewhere
  · intro q here
    rw [found'] at here
    cases here
    exact Or.inr ⟨free, made⟩
  · intro q here
    rw [sibling] at here
    cases here
    refine Or.inl (others _ ?_)
    rw [found]
    exact fun same => config_ne_manifest base (Except.ok.inj same)

/-- What is read off a manifest is the same where its file is the same. -/
theorem manifestMembers_congr {d d' : Disk} {root : Path}
    (there : d'.exists? (root.join ⟨Manifest.fileName⟩) = d.exists? (root.join ⟨Manifest.fileName⟩))
    (read : d'.readText (root.join ⟨Manifest.fileName⟩) =
      d.readText (root.join ⟨Manifest.fileName⟩)) :
    manifestMembers d' root = manifestMembers d root := by
  simp only [manifestMembers, there, read]

/-- A manifest is only written anew where there was none, or where a package is missing. -/
theorem missesPackage_of_needed {d : Disk} {root : Path} {members dependencies : List (String × Json)}
    {created : Bool} (read : manifestMembers d root = .ok (members, created))
    (development : Manifest.development? members = some dependencies)
    (needed : (created || Manifest.lacksLinter dependencies) = true) :
    d.exists? (root.join ⟨Manifest.fileName⟩) = false ∨ MissesPackage d root := by
  rcases manifestMembers_ok read with ⟨rfl, text, found, parsed⟩ | ⟨-, absent, -⟩
  · rw [Bool.false_or, Manifest.lacksLinter, List.any_eq_true] at needed
    obtain ⟨p, listed, missing⟩ := needed
    exact Or.inr ⟨text, members, dependencies, found, parsed, development, p, listed,
      by simpa using missing⟩
  · exact Or.inl absent

/-- To complete the manifest of a workspace adds nothing to what may have changed before. -/
theorem Completes.confined {d d₁ d' : Disk} {root : Path} {setup : Setup}
    (completes : Completes d₁ root setup d') (before : Confined root d d₁)
    (located : d₁.locate (root.join ⟨Manifest.fileName⟩) =
      d.locate (root.join ⟨Manifest.fileName⟩))
    (there : d₁.exists? (root.join ⟨Manifest.fileName⟩) =
      d.exists? (root.join ⟨Manifest.fileName⟩))
    (text : d₁.readText (root.join ⟨Manifest.fileName⟩) =
      d.readText (root.join ⟨Manifest.fileName⟩)) : Confined root d d' := by
  cases completes with
  | left => exact before
  | written read development needed write =>
    obtain ⟨cwd, others⟩ := Disk.writeText_others write
    rw [located] at others
    constructor
    · exact cwd.trans before.cwd_eq
    · intro place notConfig notManifest
      exact (others place notManifest).trans (before.others place notConfig notManifest)
    · intro place here
      have elsewhere : d.locate (root.join ⟨Manifest.fileName⟩) ≠ .ok place := by
        obtain ⟨base, found, sibling⟩ := Disk.locate_sibling (a := configName)
          (b := Manifest.fileName) (by decide) (by decide) here
        subst found
        rw [sibling]
        exact fun same => config_ne_manifest base (Except.ok.inj same).symm
      rw [others place elsewhere]
      exact before.config place here
    · intro place here
      rw [manifestMembers_congr there text] at read
      rcases missesPackage_of_needed read development needed with absent | misses
      · refine Or.inr (Or.inl ?_)
        cases entry : d.entry? place with
        | none => rfl
        | some e =>
          rw [Disk.exists_iff.mpr ⟨place, e, here, entry⟩] at absent
          cases absent
      · exact Or.inr (Or.inr misses)

/-- Whether it succeeds or fails on its way, a preparation stays within its two files. -/
theorem ensure_confined {d d' : Disk} {root : Path} {result : Except Error Setup}
    (h : ensure d root = (result, d')) : Confined root d d' := by
  unfold ensure at h
  split at h
  · cases h
    exact .refl root _
  · rename_i d₁ wrote config
    have before := writeConfig_confined config
    obtain ⟨located, text, there⟩ := writeConfig_manifest config
    cases result with
    | error e =>
      obtain ⟨rfl, -⟩ := completeManifest_error h false
      exact before
    | ok setup => exact (completes_of_ok h).confined before located there text

/-- What can be read of the manifest after a preparation: what could be read before, or the text
that completes it. -/
theorem ensure_manifest {d d' : Disk} {root : Path} {result : Except Error Setup}
    (h : ensure d root = (result, d')) :
    (d'.readText (root.join ⟨Manifest.fileName⟩) = d.readText (root.join ⟨Manifest.fileName⟩) ∧
      d'.exists? (root.join ⟨Manifest.fileName⟩) = d.exists? (root.join ⟨Manifest.fileName⟩)) ∨
    ∃ members created dependencies, manifestMembers d root = .ok (members, created) ∧
      Manifest.development? members = some dependencies ∧
      d'.readText (root.join ⟨Manifest.fileName⟩) = .ok (completedText members dependencies) := by
  unfold ensure at h
  split at h
  · cases h
    exact Or.inl ⟨rfl, rfl⟩
  · rename_i d₁ wrote config
    obtain ⟨-, text, there⟩ := writeConfig_manifest config
    cases result with
    | error e =>
      obtain ⟨rfl, -⟩ := completeManifest_error h false
      exact Or.inl ⟨text, there⟩
    | ok setup =>
      cases completes_of_ok h with
      | left => exact Or.inl ⟨text, there⟩
      | written read development _ write =>
        exact Or.inr ⟨_, _, _, manifestMembers_congr there text ▸ read, development,
          readText_rewritten read write⟩

/-- A manifest that cannot be read stays as it is, and none becomes unreadable. -/
theorem ensure_unreadable_iff {d d' : Disk} {root : Path} {result : Except Error Setup}
    (h : ensure d root = (result, d')) (e : FileError) :
    d'.exists? (root.join ⟨Manifest.fileName⟩) = true ∧
        d'.readText (root.join ⟨Manifest.fileName⟩) = .error e ↔
      d.exists? (root.join ⟨Manifest.fileName⟩) = true ∧
        d.readText (root.join ⟨Manifest.fileName⟩) = .error e := by
  rcases ensure_manifest h with ⟨text, there⟩ | ⟨members, created, dependencies, read, -, text⟩
  · rw [text, there]
  · constructor
    · rintro ⟨-, unread⟩
      rw [text] at unread
      cases unread
    · rintro ⟨present, unread⟩
      rcases manifestMembers_ok read with ⟨-, old, found, -⟩ | ⟨-, absent, -⟩
      · rw [found] at unread
        cases unread
      · rw [absent] at present
        cases present

end FixGrader.Lint.Setup
