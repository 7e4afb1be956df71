import FixGrader.Proofs.Disk.Siblings
import FixGrader.Proofs.Json.Members
import FixGrader.Proofs.Json.Origin
import FixGrader.Proofs.Lint.Preparation
/-!
# Preparing a workspace again

A workspace that was prepared is left alone when it is prepared again: the configuration is there,
and the manifest lists what the linter needs. Where the preparation failed, it fails in the same way.
-/
namespace FixGrader
open Json

namespace Manifest

theorem find_append_new {key key' : String} {value : Json} {members : List (String × Json)}
    (there : (find? key members).isSome) : (find? key (members ++ [(key', value)])).isSome := by
  simp only [find?, Option.isSome_map, List.find?_append] at there ⊢
  simp [there]

theorem addPackages_keeps {packages : List (String × String)} {dependencies : List (String × Json)}
    {key : String} (there : (find? key dependencies).isSome) :
    (find? key (addPackages packages dependencies)).isSome := by
  induction packages generalizing dependencies with
  | nil => exact there
  | cons p ps ih =>
    rw [addPackages, List.foldl_cons]
    refine ih ?_
    dsimp only
    split
    · exact there
    · exact find_append_new there

theorem addPackages_adds {packages : List (String × String)} {p : String × String}
    (dependencies : List (String × Json)) (listed : p ∈ packages) :
    (find? p.1 (addPackages packages dependencies)).isSome := by
  induction packages generalizing dependencies with
  | nil => simp at listed
  | cons q qs ih =>
    rw [addPackages, List.foldl_cons]
    rcases List.mem_cons.mp listed with rfl | listed
    · refine addPackages_keeps ?_
      dsimp only
      split
      · assumption
      · simp [find?, List.find?_append]
    · exact ih _ listed

theorem lacksLinter_addPackages (dependencies : List (String × Json)) :
    lacksLinter (addPackages linterPackages dependencies) = false := by
  rw [lacksLinter, List.any_eq_false]
  intro p listed
  have added := addPackages_adds dependencies listed
  simp [Option.isSome_iff_ne_none.mp added]

theorem development_withLinter (members dependencies : List (String × Json)) :
    development? (withLinter members dependencies) =
      some (addPackages linterPackages dependencies) := by
  rw [development?, withLinter, find_insert_self]
  rfl

variable {P : Json.Number → Prop}

theorem addPackages_fits {depth : Nat} (packages : List (String × String))
    {dependencies : List (String × Json)} (distinct : (dependencies.map (·.1)).Nodup)
    (fits : ∀ m ∈ dependencies, Fits P depth m.2) :
    ((addPackages packages dependencies).map (·.1)).Nodup ∧
      ∀ m ∈ addPackages packages dependencies, Fits P depth m.2 := by
  induction packages generalizing dependencies with
  | nil => exact ⟨distinct, fits⟩
  | cons p ps ih =>
    rw [addPackages, List.foldl_cons]
    dsimp only
    split
    · exact ih distinct fits
    · rename_i missing
      refine ih ?_ ?_
      · rw [List.map_append, List.map_singleton]
        refine List.nodup_append.mpr ⟨distinct, by simp, ?_⟩
        intro k listed k' new
        rw [List.mem_singleton.mp new]
        rintro rfl
        refine missing ?_
        simpa [find?] using listed
      · intro m listed
        rcases List.mem_append.mp listed with listed | added
        · exact fits m listed
        · rw [List.mem_singleton.mp added]
          exact .string _

theorem development_distinct {depth : Nat} {members dependencies : List (String × Json)}
    (fits : Fits P (depth + 2) (.object members))
    (development : development? members = some dependencies) :
    (dependencies.map (·.1)).Nodup ∧ ∀ m ∈ dependencies, Fits P depth m.2 := by
  unfold development? at development
  split at development
  · cases development
    simp
  · rename_i value found
    obtain ⟨m, there, rfl⟩ := Option.map_eq_some_iff.mp found
    cases fits with
    | object _ inner =>
      have fits := inner m (List.mem_of_find?_eq_some there)
      revert development fits
      cases m.2 with
      | object inside =>
        intro development fits
        cases development
        cases fits with
        | object distinct inner => exact ⟨distinct, inner⟩
      | _ =>
        intro development
        cases development

theorem withLinter_fits {depth : Nat} {members dependencies : List (String × Json)}
    (fits : Fits P (depth + 2) (.object members))
    (development : development? members = some dependencies) :
    Fits P (depth + 2) (.object (withLinter members dependencies)) := by
  obtain ⟨distinct, inner⟩ := development_distinct fits development
  obtain ⟨distinct', inner'⟩ := addPackages_fits linterPackages distinct inner
  cases fits with
  | object apart each =>
    refine .object (insert_keys apart).1 ?_
    intro m listed
    rcases mem_insert listed with rfl | listed
    · exact .object distinct' inner'
    · exact each m listed

theorem initial_fits (root : Path) (depth : Nat) : Fits P (depth + 1) (.object (initial root)) := by
  refine .object ?_ ?_
  · simp [initial]
  · intro m listed
    simp only [initial, List.mem_cons, List.not_mem_nil, or_false] at listed
    rcases listed with rfl | rfl | rfl
    · exact .string _
    · exact .string _
    · exact .bool _

end Manifest

namespace Lint.Setup

/-- Each double in the manifest of a workspace is one that is read back when it is printed. -/
def Reprints (d : Disk) (root : Path) : Prop :=
  ∀ text j, d.readText (root.join ⟨Manifest.fileName⟩) = .ok text → Json.ofText text = .ok j →
    ∀ x, .real x ∈ j.numbers → Number.Lossless (.real x)

/-- Where the numbers in the manifest are known, each can be printed and read back by itself. -/
theorem reprints_of_numbers {d : Disk} {root : Path} (numbers : List Number)
    (known : (d.readText (root.join ⟨Manifest.fileName⟩)).toOption.bind
      (fun text => (Json.ofText text).toOption.map Json.numbers) = some numbers)
    (lossless : ∀ n ∈ numbers, n.Lossless) : Reprints d root := by
  intro text j read parsed x held
  simp only [read, parsed, Except.toOption, Option.bind_some, Option.map_some,
    Option.some.injEq] at known
  rw [known] at held
  exact lossless _ held

theorem manifestMembers_fits {d : Disk} {root : Path} {members : List (String × Json)}
    {created : Bool} (reprints : Reprints d root)
    (h : manifestMembers d root = .ok (members, created)) :
    Fits Document.ReadBack Json.maxDepth (.object members) := by
  rcases manifestMembers_ok h with ⟨-, text, read, parsed⟩ | ⟨-, -, rfl⟩
  · exact (fits_of_ofText parsed).readBack (reprints text _ read parsed)
  · exact Manifest.initial_fits root _

/-- A completed manifest is read as it was meant. -/
theorem ofText_completedText {members dependencies : List (String × Json)}
    (fits : Fits Document.ReadBack Json.maxDepth (.object members))
    (development : Manifest.development? members = some dependencies) :
    Json.ofText (completedText members dependencies) =
      .ok (.object (Manifest.withLinter members dependencies)) :=
  ofText_pretty (Manifest.withLinter_fits fits development) (List.all_eq_true.mp rfl)

theorem manifestMembers_of_read {d : Disk} {root : Path} {text : String}
    {members : List (String × Json)}
    (read : d.readText (root.join ⟨Manifest.fileName⟩) = .ok text)
    (parsed : Json.ofText text = .ok (.object members)) :
    manifestMembers d root = .ok (members, false) := by
  have there := exists_of_readText read
  simp only [manifestMembers, there, read, parsed, if_true]

theorem completeManifest_complete {d : Disk} {root : Path}
    {members dependencies : List (String × Json)}
    (read : manifestMembers d root = .ok (members, false))
    (development : Manifest.development? members = some dependencies)
    (complete : Manifest.lacksLinter dependencies = false) (wrote : Bool) :
    completeManifest d root wrote = (.ok ⟨wrote, false, false⟩, d) := by
  simp only [completeManifest, read, development, complete, Bool.or_self, Bool.false_eq_true,
    if_false]

theorem completeManifest_again {d d' : Disk} {root : Path} {wrote : Bool} {setup : Setup}
    (reprints : Reprints d root) (h : completeManifest d root wrote = (.ok setup, d'))
    (wrote' : Bool) : completeManifest d' root wrote' = (.ok ⟨wrote', false, false⟩, d') := by
  cases completes_of_ok h with
  | left read development complete => exact completeManifest_complete read development complete _
  | @written _ _ members dependencies _ read development needed write =>
    have text := readText_rewritten read write
    have parsed := ofText_completedText (manifestMembers_fits reprints read) development
    exact completeManifest_complete (manifestMembers_of_read text parsed)
      (Manifest.development_withLinter members dependencies)
      (Manifest.lacksLinter_addPackages dependencies) wrote'

/-- Where the configuration was written it stays, and the manifest is as it was. -/
theorem writeConfig_ok {d d' : Disk} {root : Path} {wrote : Bool}
    (h : writeConfig d root = .ok (d', wrote)) : d'.exists? (root.join ⟨configName⟩) = true ∧
      d'.readText (root.join ⟨Manifest.fileName⟩) = d.readText (root.join ⟨Manifest.fileName⟩) := by
  obtain ⟨rfl, there⟩ | ⟨-, write⟩ := writeConfig_cases h
  · exact ⟨there, rfl⟩
  · have apart := Disk.writeText_sibling (a := configName) (b := Manifest.fileName)
      (by decide) (by decide) (by decide) write
    exact ⟨Disk.exists_of_writeText write, apart.1⟩

theorem completeManifest_config {d d' : Disk} {root : Path} {wrote : Bool} {setup : Setup}
    (h : completeManifest d root wrote = (.ok setup, d'))
    (there : d.exists? (root.join ⟨configName⟩) = true) :
    d'.exists? (root.join ⟨configName⟩) = true := by
  cases completes_of_ok h with
  | left => exact there
  | written _ _ _ write => exact Disk.exists_writeText write there

theorem ensure_configured {d : Disk} {root : Path}
    (there : d.exists? (root.join ⟨configName⟩) = true) :
    ensure d root = completeManifest d root false := by
  simp only [ensure, writeConfig, there, if_true]

/-- To prepare a workspace again changes nothing, and fails exactly if it failed before. -/
theorem ensure_again {d d' : Disk} {root : Path} {result : Except Error Setup}
    (reprints : Reprints d root) (h : ensure d root = (result, d')) :
    ensure d' root = (result.map fun _ => ⟨false, false, false⟩, d') := by
  unfold ensure at h
  split at h
  · rename_i e config
    cases h
    rw [ensure, config]
    rfl
  · rename_i d₁ wrote config
    obtain ⟨there, manifest⟩ := writeConfig_ok config
    cases result with
    | error e =>
      obtain ⟨rfl, again⟩ := completeManifest_error h false
      rw [ensure_configured there, again]
      rfl
    | ok setup =>
      have reprints : Reprints d₁ root := by
        intro text j read
        rw [manifest] at read
        exact reprints text j read
      rw [ensure_configured (completeManifest_config h there),
        completeManifest_again reprints h false]
      rfl

end Lint.Setup

end FixGrader
