import FixGrader.Proofs.Lint.Declarations
/-!
# What a preparation leaves in the manifest

A preparation that succeeds loses nothing: the configuration and the manifest keep what was there,
and the manifest is only extended by the packages that the linter misses. What it tells about its
changes is what it did, and done again it does nothing.
-/
namespace FixGrader
open Json

theorem Json.filter_insert (key : String) (value : Json) (members : List (String × Json)) :
    (insert key value members).filter (·.1 ≠ key) = members.filter (·.1 ≠ key) := by
  induction members with
  | nil => simp [insert]
  | cons m ms ih =>
    rw [insert]
    split
    · rename_i same
      simp [same]
    · rw [List.filter_cons, List.filter_cons, ih]

theorem Json.keys_insert (key : String) (value : Json) (members : List (String × Json)) :
    (insert key value members).map (·.1) =
      if key ∈ members.map (·.1) then members.map (·.1) else members.map (·.1) ++ [key] := by
  induction members with
  | nil => simp [insert]
  | cons m ms ih =>
    rw [insert]
    split
    · rename_i same
      simp [same]
    · rename_i other
      rw [List.map_cons, List.map_cons, ih]
      by_cases later : key ∈ ms.map (·.1) <;> simp [later, Ne.symm other]

theorem Json.mem_of_find {key : String} {value : Json} {members : List (String × Json)}
    (found : find? key members = some value) : (key, value) ∈ members := by
  obtain ⟨m, listed, rfl⟩ := Option.map_eq_some_iff.mp found
  have same : m.1 = key := by simpa using List.find?_some listed
  exact same ▸ List.mem_of_find?_eq_some listed

namespace Manifest

def missing (packages : List (String × String)) (dependencies : List (String × Json)) :
    List (String × Json) :=
  (packages.filter fun p => (find? p.1 dependencies).isNone).map fun p => (p.1, .string p.2)

/-- How a manifest with some dependencies for development is completed: all other members stay, and
every member stays in its place; behind the dependencies come the packages that are missing. -/
structure Extended (members dependencies members' : List (String × Json)) : Prop where
  others : members'.filter (·.1 ≠ developmentKey) = members.filter (·.1 ≠ developmentKey)
  keys : members'.map (·.1) =
    if developmentKey ∈ members.map (·.1) then members.map (·.1)
    else members.map (·.1) ++ [developmentKey]
  development :
    (developmentKey, .object (dependencies ++ missing linterPackages dependencies)) ∈ members'

/-- Packages of different names are added behind the dependencies, in their order. -/
theorem addPackages_eq {packages : List (String × String)} (apart : (packages.map (·.1)).Nodup)
    (dependencies : List (String × Json)) :
    addPackages packages dependencies = dependencies ++ missing packages dependencies := by
  induction packages generalizing dependencies with
  | nil => simp [addPackages, missing]
  | cons p ps ih =>
    obtain ⟨first, others⟩ := List.nodup_cons.mp apart
    rw [addPackages, List.foldl_cons]
    change addPackages ps (if (find? p.1 dependencies).isSome then dependencies
      else dependencies ++ [(p.1, .string p.2)]) = _
    rw [ih others]
    cases there : (find? p.1 dependencies).isSome with
    | true => simp [missing, Option.isSome_iff_ne_none.mp there]
    | false =>
      have absent : find? p.1 dependencies = none := by simpa using there
      have unnoticed : ∀ q ∈ ps, find? q.1 (dependencies ++ [(p.1, .string p.2)]) =
          find? q.1 dependencies := by
        intro q listed
        have unlike : p.1 ≠ q.1 := fun same => first (List.mem_map.mpr ⟨q, listed, same.symm⟩)
        simp [find?, List.find?_append, unlike]
      have later : ps.filter (fun q =>
          (find? q.1 (dependencies ++ [(p.1, .string p.2)])).isNone) =
          ps.filter fun q => (find? q.1 dependencies).isNone :=
        List.filter_congr fun q listed => by rw [unnoticed q listed]
      simp [missing, absent, later]

theorem lacksLinter_eq (dependencies : List (String × Json)) :
    lacksLinter dependencies = !(missing linterPackages dependencies).isEmpty := by
  rw [Bool.eq_iff_iff]
  simp [lacksLinter, missing]

theorem extended_withLinter (members dependencies : List (String × Json)) :
    Extended members dependencies (withLinter members dependencies) where
  others := filter_insert _ _ _
  keys := keys_insert _ _ _
  development := by
    rw [← addPackages_eq (by decide)]
    exact mem_of_find (find_insert_self _ _ _)

/-- A manifest that misses nothing is its own completion. -/
theorem extended_self {members dependencies : List (String × Json)}
    (development : development? members = some dependencies)
    (complete : lacksLinter dependencies = false) : Extended members dependencies members := by
  have nothing : missing linterPackages dependencies = [] := by
    simpa [lacksLinter_eq] using complete
  unfold development? at development
  split at development
  · cases development
    cases complete
  · rename_i value found
    have held : value = .object dependencies := by
      cases value with
      | object inner => exact congrArg _ (Option.some.inj development)
      | _ => cases development
    have listed := mem_of_find (held ▸ found)
    constructor
    · rfl
    · rw [if_pos (List.mem_map_of_mem listed)]
    · rw [nothing, List.append_nil]
      exact listed

end Manifest

namespace Lint.Setup

def Holds (d : Disk) (root : Path) (members : List (String × Json)) : Prop :=
  ∃ text, d.readText (root.join ⟨Manifest.fileName⟩) = .ok text ∧
    Json.ofText text = .ok (.object members)

/-- What a preparation has done, by what it tells about it. -/
structure Done (d : Disk) (root : Path) (setup : Setup) (d' : Disk) : Prop where
  wroteConfig : setup.wroteConfig = !d.exists? (root.join ⟨configName⟩)
  config_written : setup.wroteConfig = true →
    d'.readText (root.join ⟨configName⟩) = .ok configuration.pretty
  config_kept : setup.wroteConfig = false →
    d'.readBytes (root.join ⟨configName⟩) = d.readBytes (root.join ⟨configName⟩)
  createdManifest : setup.createdManifest = !d.exists? (root.join ⟨Manifest.fileName⟩)
  manifest_kept : setup.createdManifest = false → setup.addedPackages = false →
    d'.readBytes (root.join ⟨Manifest.fileName⟩) = d.readBytes (root.join ⟨Manifest.fileName⟩)
  manifest_extended : ∃ members dependencies members',
    (setup.createdManifest = false → Holds d root members) ∧
    (setup.createdManifest = true → members = Manifest.initial root) ∧
    Manifest.development? members = some dependencies ∧
    (setup.addedPackages = true ↔
      Manifest.missing Manifest.linterPackages dependencies ≠ []) ∧
    Holds d' root members' ∧ Manifest.Extended members dependencies members'

theorem completeManifest_wrote {d d' : Disk} {root : Path} {wrote : Bool} {setup : Setup}
    (h : completeManifest d root wrote = (.ok setup, d')) : setup.wroteConfig = wrote := by
  unfold completeManifest at h
  dsimp only at h
  split at h
  · cases h
  · split at h
    · cases h
    · split at h
      · split at h <;> cases h
        rfl
      · cases h
        rfl

/-- The configuration that is written is left alone afterwards, and so is one that was there. -/
theorem ensure_config {d d' : Disk} {root : Path} {setup : Setup}
    (h : ensure d root = (.ok setup, d')) :
    setup.wroteConfig = !d.exists? (root.join ⟨configName⟩) ∧
      (setup.wroteConfig = true →
        d'.readText (root.join ⟨configName⟩) = .ok configuration.pretty) ∧
      (setup.wroteConfig = false →
        d'.readBytes (root.join ⟨configName⟩) = d.readBytes (root.join ⟨configName⟩)) := by
  obtain ⟨d₁, wrote, config, complete⟩ := ensure_ok h
  have after : d'.readBytes (root.join ⟨configName⟩) = d₁.readBytes (root.join ⟨configName⟩) := by
    cases completes_of_ok complete with
    | left => rfl
    | written _ _ _ write =>
      exact (Disk.writeText_sibling_bytes (by decide) (by decide) (by decide) write).1
  rw [completeManifest_wrote complete]
  rcases writeConfig_told config with ⟨rfl, rfl, there⟩ | ⟨rfl, absent, write⟩
  · exact ⟨by rw [there]; rfl, nofun, fun _ => after⟩
  · refine ⟨by rw [absent]; rfl, fun _ => ?_, nofun⟩
    rw [Disk.readText, after, ← Disk.readText]
    refine Disk.readText_writeText write fun there => ?_
    rw [there] at absent
    cases absent

theorem writeConfig_bytes {d d' : Disk} {root : Path} {wrote : Bool}
    (h : writeConfig d root = .ok (d', wrote)) :
    d'.readBytes (root.join ⟨Manifest.fileName⟩) = d.readBytes (root.join ⟨Manifest.fileName⟩) := by
  obtain ⟨rfl, -⟩ | ⟨-, write⟩ := writeConfig_cases h
  · rfl
  · exact (Disk.writeText_sibling_bytes (by decide) (by decide) (by decide) write).1

/-- Whether a manifest is a new one hangs on whether there was one. -/
theorem manifestMembers_created {d : Disk} {root : Path} {members : List (String × Json)}
    {created : Bool} (h : manifestMembers d root = .ok (members, created)) :
    created = !d.exists? (root.join ⟨Manifest.fileName⟩) := by
  rcases manifestMembers_ok h with ⟨rfl, text, read, -⟩ | ⟨rfl, absent, -⟩
  · rw [exists_of_readText read]
    rfl
  · rw [absent]
    rfl

/-- The members of the manifest, or those of a new one, are extended by what the linter misses. -/
theorem Completes.extended {d d' : Disk} {root : Path} {setup : Setup}
    (reprints : Reprints d root) (h : Completes d root setup d') :
    ∃ members dependencies members',
      manifestMembers d root = .ok (members, setup.createdManifest) ∧
      Manifest.development? members = some dependencies ∧
      setup.addedPackages = Manifest.lacksLinter dependencies ∧
      Holds d' root members' ∧ Manifest.Extended members dependencies members' := by
  cases h with
  | @left wrote members dependencies read development complete =>
    refine ⟨members, dependencies, members, read, development, complete.symm, ?_,
      Manifest.extended_self development complete⟩
    rcases manifestMembers_ok read with ⟨-, text, found, parsed⟩ | ⟨created, -⟩
    · exact ⟨text, found, parsed⟩
    · cases created
  | @written wrote created members dependencies _ read development needed write =>
    refine ⟨members, dependencies, _, read, development, rfl, ?_,
      Manifest.extended_withLinter members dependencies⟩
    exact ⟨_, readText_rewritten read write,
      ofText_completedText (manifestMembers_fits reprints read) development⟩

theorem Completes.kept {d d' : Disk} {root : Path} {setup : Setup} (h : Completes d root setup d')
    (found : setup.createdManifest = false) (complete : setup.addedPackages = false) : d' = d := by
  cases h with
  | left => rfl
  | written _ _ needed =>
    dsimp only at found complete
    rw [found, complete] at needed
    cases needed

theorem ensure_done {d d' : Disk} {root : Path} {setup : Setup} (reprints : Reprints d root)
    (h : ensure d root = (.ok setup, d')) : Done d root setup d' := by
  obtain ⟨wroteConfig, written, kept⟩ := ensure_config h
  obtain ⟨d₁, wrote, config, complete⟩ := ensure_ok h
  obtain ⟨-, text, there⟩ := writeConfig_manifest config
  have completes := completes_of_ok complete
  have reprints₁ : Reprints d₁ root := by
    intro text' j read
    rw [text] at read
    exact reprints text' j read
  obtain ⟨members, dependencies, members', read, development, added, holds, extended⟩ :=
    completes.extended reprints₁
  rw [manifestMembers_congr there text] at read
  refine ⟨wroteConfig, written, kept, manifestMembers_created read, ?_, members, dependencies,
    members', ?_, ?_, development, ?_, holds, extended⟩
  · intro found complete
    rw [completes.kept found complete]
    exact writeConfig_bytes config
  · intro found
    rcases manifestMembers_ok read with ⟨-, held⟩ | ⟨created, -⟩
    · exact held
    · rw [found] at created
      cases created
  · intro new
    rcases manifestMembers_ok read with ⟨created, -⟩ | ⟨-, -, initial⟩
    · rw [new] at created
      cases created
    · exact initial
  · rw [added, Manifest.lacksLinter_eq]
    simp

/-- A preparation that succeeds keeps all that was there, adds what the linter misses, and tells what
it has done; done again it does nothing. -/
theorem ensure_completes : ∀ (d d' : Disk) (root : Path) (setup : Setup), Reprints d root →
    ensure d root = (.ok setup, d') →
      Done d root setup d' ∧ ensure d' root = (.ok ⟨false, false, false⟩, d') := by
  intro d d' root setup reprints prepared
  have done : Done d root setup d' := ensure_done reprints prepared
  have again : ensure d' root = (.ok ⟨false, false, false⟩, d') := ensure_again reprints prepared
  exact ⟨done, again⟩

/-- A workspace whose manifest lists one of the two packages, and holds a double. -/
def halfListed : Disk :=
  ⟨[(["w"], .directory true), (["w", "package.json"], .file (Text.toBytes
    "\x7b\"devDependencies\": \x7b\"eslint\": \"^8.0.0\"\x7d, \"ratio\": 0.5\x7d")
      true true false)], []⟩

theorem halfListed_reprints : Reprints halfListed ⟨"/w"⟩ :=
  reprints_of_numbers [.real (.finite false (2 ^ 52) (-53))] (by decide +kernel) (by decide)

theorem ensure_completes_halfListed : ∃ d',
    ensure halfListed ⟨"/w"⟩ = (.ok ⟨true, false, true⟩, d') ∧
      d'.readText (Path.join ⟨"/w"⟩ ⟨configName⟩) = .ok configuration.pretty ∧
      ensure d' ⟨"/w"⟩ = (.ok ⟨false, false, false⟩, d') := by
  have told : (ensure halfListed ⟨"/w"⟩).1.toOption = some ⟨true, false, true⟩ := by
    decide +kernel
  cases prepared : ensure halfListed ⟨"/w"⟩ with
  | mk result d' =>
    rw [prepared] at told
    cases result with
    | error e => cases told
    | ok setup =>
      cases Option.some.inj told
      obtain ⟨done, again⟩ := ensure_completes _ _ _ _ halfListed_reprints prepared
      exact ⟨d', rfl, done.config_written rfl, again⟩

end Lint.Setup
end FixGrader
