import FixGrader.Proofs.Disk.Writing
import FixGrader.Tool.Lint
/-!
# Preparing a workspace

The ways in which a workspace is prepared for the linter, and what is there afterwards.
-/
namespace FixGrader.Lint.Setup

theorem exists_of_readText {d : Disk} {p : Path} {text : String} (h : d.readText p = .ok text) :
    d.exists? p = true := by
  unfold Disk.readText Disk.readBytes at h
  cases found : d.locate p with
  | error e => simp [found, bind, Except.bind] at h
  | ok place =>
    cases entry : d.entry? place with
    | none => simp [found, entry, bind, Except.bind, throw, throwThe, MonadExceptOf.throw] at h
    | some e => exact Disk.exists_iff.mpr ⟨place, e, found, entry⟩

/-- The configuration is there already, or it is written where there is none; which of both is
told. -/
theorem writeConfig_told {d d' : Disk} {root : Path} {wrote : Bool}
    (h : writeConfig d root = .ok (d', wrote)) :
    (wrote = false ∧ d' = d ∧ d.exists? (root.join ⟨configName⟩) = true) ∨
      (wrote = true ∧ d.exists? (root.join ⟨configName⟩) = false ∧
        d.writeText (root.join ⟨configName⟩) configuration.pretty = .ok d') := by
  unfold writeConfig at h
  dsimp only at h
  split at h
  · rename_i there
    cases h
    exact Or.inl ⟨rfl, rfl, there⟩
  · rename_i absent
    cases write : d.writeText (root.join ⟨configName⟩) configuration.pretty with
    | error e =>
      rw [write] at h
      cases h
    | ok written =>
      rw [write] at h
      cases h
      exact Or.inr ⟨rfl, by simpa using absent, rfl⟩

theorem writeConfig_cases {d d' : Disk} {root : Path} {wrote : Bool}
    (h : writeConfig d root = .ok (d', wrote)) :
    (d' = d ∧ d.exists? (root.join ⟨configName⟩) = true) ∨
      (d.exists? (root.join ⟨configName⟩) = false ∧
        d.writeText (root.join ⟨configName⟩) configuration.pretty = .ok d') :=
  (writeConfig_told h).imp And.right And.right

/-- The members of a manifest come from a file that can be read, or there is no such file. -/
theorem manifestMembers_ok {d : Disk} {root : Path} {members : List (String × Json)}
    {created : Bool} (h : manifestMembers d root = .ok (members, created)) :
    (created = false ∧ ∃ text, d.readText (root.join ⟨Manifest.fileName⟩) = .ok text ∧
        Json.ofText text = .ok (.object members)) ∨
      (created = true ∧ d.exists? (root.join ⟨Manifest.fileName⟩) = false ∧
        members = Manifest.initial root) := by
  unfold manifestMembers at h
  dsimp only at h
  split at h
  · split at h
    · cases h
    · rename_i text read
      split at h
      · cases h
      · rename_i found
        cases h
        exact Or.inl ⟨rfl, text, read, found⟩
      · cases h
  · rename_i absent
    cases h
    exact Or.inr ⟨rfl, by simpa using absent, rfl⟩

/-- A manifest that is written after it was looked at can be read as it was written. -/
theorem readText_rewritten {d d' : Disk} {root : Path} {members : List (String × Json)}
    {created : Bool} (read : manifestMembers d root = .ok (members, created)) {text : String}
    (write : d.writeText (root.join ⟨Manifest.fileName⟩) text = .ok d') :
    d'.readText (root.join ⟨Manifest.fileName⟩) = .ok text := by
  refine Disk.readText_writeText write fun there => ?_
  rcases manifestMembers_ok read with ⟨-, old, found, -⟩ | ⟨-, absent, -⟩
  · exact ⟨old, found⟩
  · rw [absent] at there
    cases there

def completedText (members dependencies : List (String × Json)) : String :=
  (Json.object (Manifest.withLinter members dependencies)).pretty ++ "\n"

/-- The manifest is completed by leaving it, or by writing all of it. -/
inductive Completes (d : Disk) (root : Path) : Setup → Disk → Prop where
  | left {wrote : Bool} {members dependencies : List (String × Json)}
      (read : manifestMembers d root = .ok (members, false))
      (development : Manifest.development? members = some dependencies)
      (complete : Manifest.lacksLinter dependencies = false) :
      Completes d root ⟨wrote, false, false⟩ d
  | written {wrote created : Bool} {members dependencies : List (String × Json)} {d' : Disk}
      (read : manifestMembers d root = .ok (members, created))
      (development : Manifest.development? members = some dependencies)
      (needed : (created || Manifest.lacksLinter dependencies) = true)
      (write : d.writeText (root.join ⟨Manifest.fileName⟩) (completedText members dependencies) =
        .ok d') :
      Completes d root ⟨wrote, created, Manifest.lacksLinter dependencies⟩ d'

theorem completes_of_ok {d d' : Disk} {root : Path} {wrote : Bool} {setup : Setup}
    (h : completeManifest d root wrote = (.ok setup, d')) : Completes d root setup d' := by
  unfold completeManifest at h
  dsimp only at h
  split at h
  · cases h
  · rename_i members created read
    split at h
    · cases h
    · rename_i dependencies development
      split at h
      · rename_i needed
        split at h
        · cases h
        · rename_i written write
          cases h
          exact .written read development needed write
      · rename_i complete
        cases h
        rw [Bool.not_eq_true, Bool.or_eq_false_iff] at complete
        obtain ⟨rfl, lacks⟩ := complete
        rw [lacks]
        exact .left read development lacks

/-- An error leaves the files alone, and does not hang on whether the configuration was written. -/
theorem completeManifest_error {d d' : Disk} {root : Path} {wrote : Bool} {e : Error}
    (h : completeManifest d root wrote = (.error e, d')) (wrote' : Bool) :
    d' = d ∧ completeManifest d root wrote' = (.error e, d) := by
  unfold completeManifest at h ⊢
  dsimp only at h ⊢
  split at h
  · cases h
    exact ⟨rfl, rfl⟩
  · split at h
    · cases h
      exact ⟨rfl, rfl⟩
    · split at h
      · rename_i needed
        rw [if_pos needed]
        split at h
        · cases h
          exact ⟨rfl, rfl⟩
        · cases h
      · cases h

/-- After a preparation that succeeds the manifest can be read. -/
theorem Completes.readable {d d' : Disk} {root : Path} {setup : Setup}
    (h : Completes d root setup d') :
    ∃ text, d'.readText (root.join ⟨Manifest.fileName⟩) = .ok text := by
  cases h with
  | left read =>
    rcases manifestMembers_ok read with ⟨_, text, found, _⟩ | ⟨created, _⟩
    · exact ⟨text, found⟩
    · cases created
  | written read _ _ write => exact ⟨_, readText_rewritten read write⟩

theorem ensure_ok {d d' : Disk} {root : Path} {setup : Setup}
    (h : ensure d root = (.ok setup, d')) :
    ∃ d₁ wrote, writeConfig d root = .ok (d₁, wrote) ∧
      completeManifest d₁ root wrote = (.ok setup, d') := by
  unfold ensure at h
  split at h
  · cases h
  · rename_i d₁ wrote config
    exact ⟨d₁, wrote, config, h⟩

theorem readable_of_ensure {d d' : Disk} {root : Path} {setup : Setup}
    (h : ensure d root = (.ok setup, d')) :
    ∃ text, d'.readText (root.join ⟨Manifest.fileName⟩) = .ok text := by
  obtain ⟨_, _, _, complete⟩ := ensure_ok h
  exact (completes_of_ok complete).readable

end FixGrader.Lint.Setup
