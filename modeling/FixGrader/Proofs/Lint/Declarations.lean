import FixGrader.Proofs.Lint.Repetition
import FixGrader.Proofs.Lint.Traces
/-!
# What a completed manifest declares

To complete a manifest for the linter changes nothing about the packages that it needs to run. Those
are found again in the text that is written, also where a number in it is read as another one.
-/
namespace FixGrader
open Json

theorem Json.find_mapMembers (f : Number → Number) (key : String) (members : List (String × Json)) :
    find? key (mapMembers f members) = (find? key members).map (mapNumbers f) := by
  induction members with
  | nil => rfl
  | cons m ms ih =>
    rw [mapMembers, find_cons, find_cons, ih]
    split <;> rfl

theorem Json.members_mapNumbers (f : Number → Number) (j : Json) :
    (j.mapNumbers f).members? = j.members?.map (mapMembers f) := by
  cases j <;> rfl

namespace Manifest

/-- Other numbers in a manifest do not change what it declares. -/
theorem declares_mapNumbers (f : Number → Number) (manifest : Json) :
    declaresDependencies (manifest.mapNumbers f) = declaresDependencies manifest := by
  have entry : (manifest.mapNumbers f).get? "dependencies" =
      (manifest.get? "dependencies").map (mapNumbers f) := by
    rw [get?, get?, members_mapNumbers]
    cases manifest.members? with
    | none => rfl
    | some members => exact find_mapMembers f _ members
  unfold declaresDependencies
  rw [entry]
  cases manifest.get? "dependencies" with
  | none => rfl
  | some value =>
    rw [Option.map_some, Option.bind_some, Option.bind_some, members_mapNumbers]
    cases value.members? with
    | none => rfl
    | some members => cases members <;> rfl

theorem declares_withLinter (members dependencies : List (String × Json)) :
    declaresDependencies (.object (withLinter members dependencies)) =
      declaresDependencies (.object members) := by
  have entry : Json.get? (.object (withLinter members dependencies)) "dependencies" =
      Json.get? (.object members) "dependencies" :=
    find_insert_other (by decide) _ members
  unfold declaresDependencies
  rw [entry]

theorem declares_initial (root : Path) : declaresDependencies (.object (initial root)) = false := rfl

end Manifest

namespace Lint.Setup

theorem manifestMembers_inRange {d : Disk} {root : Path} {members : List (String × Json)}
    {created : Bool} (h : manifestMembers d root = .ok (members, created)) :
    Fits Number.InRange maxDepth (.object members) := by
  rcases manifestMembers_ok h with ⟨-, text, -, parsed⟩ | ⟨-, -, rfl⟩
  · exact fits_of_ofText parsed
  · exact Manifest.initial_fits root _

/-- The completed text is a manifest that declares what there was before. -/
theorem completedText_declares {d : Disk} {root : Path} {members dependencies : List (String × Json)}
    {created : Bool} (read : manifestMembers d root = .ok (members, created))
    (development : Manifest.development? members = some dependencies) :
    ∃ manifest, Json.ofText (completedText members dependencies) = .ok manifest ∧
      Manifest.declaresDependencies manifest = Manifest.declaresDependencies (.object members) := by
  obtain ⟨f, fits⟩ := (manifestMembers_inRange read).rereads
  refine ⟨_, ofText_reprinted (Manifest.withLinter_fits fits development)
    (List.all_eq_true.mp rfl), ?_⟩
  rw [Manifest.declares_mapNumbers, Manifest.declares_withLinter]

end Lint.Setup

end FixGrader
