import FixGrader.Proofs.Path.Components
/-!
# Places that lie in a directory

A way that leaves a directory lies in it again if, after the levels that it climbs, it goes down by
the names of just these levels. The deepest directory that some places lie in is found by two
questions: whether all lie in it, and whether all of them go on into the same one below it.
-/
namespace FixGrader

/-- A place lies in a directory, at some depth. -/
def Place.Holds (dir place : Place) : Prop := ∃ name, dir ++ [name] <+: place

/-- All the places lie in the directory, and every other directory that all lie in holds it too. -/
structure Place.Deepest (dir : Place) (places : List Place) : Prop where
  holds : ∀ place ∈ places, Holds dir place
  deepest : ∀ other, (∀ place ∈ places, Holds other place) → other <+: dir

/-- A way, given by the levels that it climbs out of a place and the names that it goes down by, leads
back to the place and into a directory below it. -/
def Place.Returns (place : Place) (way : ℕ × Place) (dir : Place) : Prop :=
  Holds (place.rtake way.1 ++ dir) way.2

namespace Place

theorem Holds.of_above {dir other place : Place} (holds : Holds other place)
    (above : dir <+: other) : Holds dir place := by
  obtain ⟨name, begins⟩ := holds
  obtain ⟨rest, rfl⟩ := above
  rcases rest with _ | ⟨next, rest⟩
  · exact ⟨name, by simpa using begins⟩
  · refine ⟨next, List.IsPrefix.trans ?_ begins⟩
    simp

/-- Where all places lie in a directory, it is the deepest one exactly if they do not all go on into
the same directory below it. -/
theorem deepest_iff {dir : Place} {places : List Place} (filled : places ≠ []) :
    Deepest dir places ↔ (∀ place ∈ places, Holds dir place) ∧
      ∀ name, ∃ place ∈ places, ¬ Holds (dir ++ [name]) place := by
  constructor
  · rintro ⟨holds, deepest⟩
    refine ⟨holds, fun name => ?_⟩
    by_contra! deeper
    have shorter := (deepest (dir ++ [name]) deeper).length_le
    rw [List.length_append, List.length_singleton] at shorter
    omega
  · rintro ⟨holds, apart⟩
    refine ⟨holds, fun other all => ?_⟩
    obtain ⟨place, listed⟩ := List.exists_mem_of_ne_nil places filled
    obtain ⟨name, begins⟩ := holds place listed
    obtain ⟨name', begins'⟩ := all place listed
    have above : dir <+: place := (List.prefix_append dir [name]).trans begins
    have above' : other <+: place := (List.prefix_append other [name']).trans begins'
    rcases List.prefix_or_prefix_of_prefix above above' with below | up
    · obtain ⟨rest, rfl⟩ := below
      rcases rest with _ | ⟨next, rest⟩
      · simp
      obtain ⟨place', listed', outside⟩ := apart next
      refine absurd ((all place' listed').of_above ?_) outside
      simp
    · exact up

/-- What is left of a place after some levels up, and the names down from there. -/
theorem prefix_rdrop_append_iff (place dir below : Place) (climbed : ℕ) :
    place ++ dir <+: place.rdrop climbed ++ below ↔ place.rtake climbed ++ dir <+: below := by
  have whole : place.rdrop climbed ++ place.rtake climbed = place := List.take_append_drop _ _
  conv_lhs => rw [← whole, List.append_assoc]
  rw [whole]
  exact List.prefix_append_right_inj _

theorem holds_rdrop_append_iff (place dir : Place) (way : ℕ × Place) :
    Holds (place ++ dir) (place.rdrop way.1 ++ way.2) ↔ place.Returns way dir := by
  simp only [Holds, Returns, List.append_assoc, prefix_rdrop_append_iff]

end Place

end FixGrader
