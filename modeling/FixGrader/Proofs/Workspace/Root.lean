import FixGrader.Proofs.Path.Containment
import FixGrader.Workspace
/-!
# The root that is found for some files

The root of a workspace is found by comparing how the paths of the directories begin. It is the
deepest directory that all files lie in if no path leads up behind what all have in common, but not
in general: a path that climbs out of the root has to come back to it, and paths that go on by
different components may still lead into one directory below it.
-/
namespace FixGrader

namespace Path

def behind (f dir : Path) : List Component := f.components.drop dir.components.length

/-- How a path leads on from a directory with whose components it begins: the levels that it climbs,
and the names that it goes down by. -/
def wayFrom (f dir : Path) : ℕ × Place := (f.behind dir).foldl Component.follow (0, [])

/-- The components of a file are those of a directory and at least one more below it. -/
structure Under (f dir : Path) : Prop where
  components_eq : f.components = dir.components ++ f.behind dir
  filled : f.behind dir ≠ []
  inner : ∀ c ∈ f.behind dir, c.Inner

theorem Under.place_eq {f dir : Path} (under : f.Under dir) :
    f.place = dir.place.rdrop (f.wayFrom dir).1 ++ (f.wayFrom dir).2 := by
  have rootless : Component.root ∉ f.behind dir := by
    intro listed
    exact absurd (under.inner _ listed).1 (by decide)
  rw [place, placeFrom, under.components_eq, List.foldl_append]
  exact foldl_enter rootless dir.place

/-- Where a path does not lead up, its way goes down by its components. -/
theorem follow_names (names : List String) (way : ℕ × Place) :
    (names.map Component.name).foldl Component.follow way = (way.1, way.2 ++ names) := by
  induction names generalizing way with
  | nil => simp
  | cons name names ih =>
    rw [List.map_cons, List.foldl_cons, ih]
    simp [Component.follow]

theorem names_of_inner {cs : List Component} (inner : ∀ c ∈ cs, c.Inner)
    (descending : Component.up ∉ cs) : ∃ names : List String, cs = names.map .name := by
  induction cs with
  | nil => exact ⟨[], rfl⟩
  | cons c cs ih =>
    rw [List.mem_cons, not_or] at descending
    obtain ⟨names, rfl⟩ := ih (fun d listed => inner d (List.mem_cons_of_mem c listed)) descending.2
    rcases (inner c List.mem_cons_self).cases with rfl | ⟨name, rfl⟩
    · exact absurd rfl descending.1
    · exact ⟨name :: names, rfl⟩

theorem Under.way_eq {f dir : Path} (under : f.Under dir)
    (descending : Component.up ∉ f.behind dir) :
    ∃ name names, f.behind dir = .name name :: names.map .name ∧
      f.wayFrom dir = (0, name :: names) := by
  obtain ⟨names, same⟩ := names_of_inner under.inner descending
  rcases names with _ | ⟨name, names⟩
  · exact absurd same under.filled
  · refine ⟨name, names, same, ?_⟩
    rw [wayFrom, same, follow_names]
    rfl

theorem Under.of_begins {f dir : Path} (absolute : f.isAbsolute = true)
    (rooted : [.root] <+: dir.components) (begins : dir.components <+: f.components.dropLast) :
    f.Under dir := by
  have split : f.components = dir.components ++ f.behind dir := by
    have whole := begins.trans (List.dropLast_prefix _)
    exact (List.prefix_iff_eq_append.mp whole).symm
  obtain ⟨more, components⟩ := rooted
  refine ⟨split, ?_, fun c beyond => ?_⟩
  · intro nothing
    rw [nothing, List.append_nil] at split
    have shorter := begins.length_le
    rw [split, List.length_dropLast, ← components, List.length_append, List.length_singleton]
      at shorter
    omega
  · obtain ⟨inner, whole, inside⟩ := components_absolute absolute
    rw [behind, whole, ← components] at beyond
    exact inside c (List.mem_of_mem_drop beyond)

end Path

namespace Workspace
open FixGrader.Path

def directoryOf (f : Path) : Path := f.parent?.getD here

/-- The root begins with the components that all directories begin with, and with no others. -/
theorem ofFiles_root {files : List Path} (filled : files ≠ []) :
    ∃ root, ofFiles files = some ⟨if root.text.isEmpty then here else root, files⟩ ∧
      ∀ cs, cs <+: root.components ↔ ∀ f ∈ files, cs <+: (directoryOf f).components := by
  obtain ⟨first, rest, rfl⟩ := List.exists_cons_of_ne_nil filled
  refine ⟨(rest.map directoryOf).foldl commonAncestor (directoryOf first), rfl, fun cs => ?_⟩
  rw [prefix_foldl_commonAncestor]
  simp

section File
variable {f : Path} (absolute : f.isAbsolute = true) (proper : f.components ≠ [.root])

include absolute proper

theorem directoryOf_components : (directoryOf f).components = f.components.dropLast := by
  obtain ⟨q, parent⟩ := exists_parent? absolute proper
  rw [directoryOf, parent, Option.getD_some]
  exact components_parent? parent

theorem root_begins : [.root] <+: f.components.dropLast := by
  obtain ⟨inner, components, -⟩ := components_absolute absolute
  rw [components] at proper ⊢
  rcases inner with _ | ⟨c, inner⟩
  · exact absurd rfl proper
  · simp

end File

section Files
variable {files : List Path} (filled : files ≠ []) (absolute : ∀ f ∈ files, f.isAbsolute = true)

include filled absolute

/-- The root of absolute paths is a directory that they are all under, as long as none of them is the
root of all. It begins with the components that all paths begin with but for their last ones. -/
theorem ofFiles_absolute (proper : ∀ f ∈ files, f.components ≠ [.root]) :
    ∃ ws, ofFiles files = some ws ∧ (∀ f ∈ files, f.Under ws.root) ∧
      ∀ cs, cs <+: ws.root.components ↔ ∀ f ∈ files, cs <+: f.components.dropLast := by
  obtain ⟨root, found, common⟩ := ofFiles_root filled
  have shared : ∀ cs, cs <+: root.components ↔ ∀ f ∈ files, cs <+: f.components.dropLast := by
    intro cs
    rw [common cs]
    exact forall₂_congr fun f listed => by
      rw [directoryOf_components (absolute f listed) (proper f listed)]
  have rooted : [.root] <+: root.components :=
    (shared _).mpr fun f listed => root_begins (absolute f listed) (proper f listed)
  have named : root.text.isEmpty = false := by
    rw [String.isEmpty_eq_false_iff]
    intro empty
    rw [components_text, empty] at rooted
    exact absurd rooted (by decide)
  rw [named, if_neg Bool.false_ne_true] at found
  refine ⟨_, found, fun f listed => ?_, shared⟩
  exact Under.of_begins (absolute f listed) rooted ((shared _).mp List.prefix_rfl f listed)

end Files

section Under
variable {files : List Path} (filled : files ≠ []) {root : Path} (under : ∀ f ∈ files, f.Under root)

include filled under

/-- Where all files are under the root, it is the deepest directory that they lie in exactly if each
file comes back to it, and not all of them go on into the same directory below. -/
theorem deepest_iff_returns :
    Place.Deepest root.place (files.map Path.place) ↔
      (∀ f ∈ files, root.place.Returns (f.wayFrom root) []) ∧
        ∀ name, ∃ f ∈ files, ¬ root.place.Returns (f.wayFrom root) [name] := by
  have holds : ∀ f ∈ files, ∀ dir,
      Place.Holds (root.place ++ dir) f.place ↔ root.place.Returns (f.wayFrom root) dir := by
    intro f listed dir
    rw [(under f listed).place_eq]
    exact Place.holds_rdrop_append_iff root.place dir _
  rw [Place.deepest_iff (by simpa using filled), List.forall_mem_map]
  refine and_congr (forall₂_congr fun f listed => ?_) (forall_congr' fun name => ?_)
  · rw [← holds f listed [], List.append_nil]
  · simp only [List.mem_map, exists_exists_and_eq_and]
    exact exists_congr fun f => and_congr_right fun listed => not_congr (holds f listed [name])

/-- Where no path leads up behind the root, and the root is all that the directories have in common,
it is the deepest directory that all files lie in. -/
theorem deepest_of_descending (descending : ∀ f ∈ files, Component.up ∉ f.behind root)
    (common : ∀ cs, cs <+: root.components ↔ ∀ f ∈ files, cs <+: f.components.dropLast) :
    Place.Deepest root.place (files.map Path.place) := by
  rw [deepest_iff_returns filled under]
  constructor
  · intro f listed
    obtain ⟨name, names, -, way⟩ := (under f listed).way_eq (descending f listed)
    rw [way, Place.Returns, List.rtake_zero, List.append_nil]
    exact ⟨name, by simp⟩
  · intro name
    by_contra! together
    have longer : root.components ++ [.name name] <+: root.components := by
      refine (common _).mpr fun f listed => ?_
      obtain ⟨first, names, behind, way⟩ := (under f listed).way_eq (descending f listed)
      obtain ⟨next, begins⟩ := together f listed
      have deeper : [name, next] <+: first :: names := by simpa [way] using begins
      obtain ⟨rfl, rest, rfl⟩ : name = first ∧ ∃ rest, names = next :: rest := by
        obtain ⟨rest, same⟩ := deeper
        cases same
        exact ⟨rfl, rest, rfl⟩
      have split : f.components =
          (root.components ++ [.name name]) ++ (next :: rest).map .name := by
        rw [(under f listed).components_eq, behind, List.append_assoc]
        rfl
      rw [split, List.dropLast_append_of_ne_nil (by simp)]
      exact List.prefix_append _ _
    have shorter := longer.length_le
    rw [List.length_append, List.length_singleton] at shorter
    omega

end Under

/-- The root of all lies in no directory, and its way leads back to none. -/
theorem not_holds_of_root {f : Path} (root : f.components = [.root]) (dir : Place) (start : Path) :
    ¬ Place.Holds dir f.place ∧ ¬ dir.Returns (f.wayFrom start) [] := by
  have place : f.place = [] := by
    rw [Path.place, placeFrom, root]
    rfl
  have way : f.wayFrom start = (0, []) := by
    rw [wayFrom, behind, root]
    cases start.components.length with
    | zero => rfl
    | succ n =>
      rw [List.drop_succ_cons, List.drop_nil]
      rfl
  rw [place, way]
  constructor
  · rintro ⟨name, begins⟩
    simp at begins
  · rintro ⟨name, begins⟩
    simp at begins

/-- The deepest directory that some files lie in is found for absolute paths exactly if each path
comes back to the root that was found, as far as it climbs out of it, and the paths do not all go on
into the same directory below. This is so whenever none of them leads up behind what all have in
common. -/
theorem ofFiles_deepest_iff (files : List Path) (filled : files ≠ [])
    (absolute : ∀ f ∈ files, f.isAbsolute = true) :
    ∃ ws, ofFiles files = some ws ∧
      (Place.Deepest ws.root.place (files.map Path.place) ↔
        (∀ f ∈ files, ws.root.place.Returns (f.wayFrom ws.root) []) ∧
          ∀ name, ∃ f ∈ files, ¬ ws.root.place.Returns (f.wayFrom ws.root) [name]) ∧
      ((∀ f ∈ files, f.components ≠ [.root] ∧ .up ∉ f.behind ws.root) →
        Place.Deepest ws.root.place (files.map Path.place)) := by
  by_cases proper : ∀ f ∈ files, f.components ≠ [.root]
  · obtain ⟨ws, found, under, common⟩ := ofFiles_absolute filled absolute proper
    refine ⟨ws, found, deepest_iff_returns filled under, fun descending => ?_⟩
    exact deepest_of_descending filled under (fun f listed => (descending f listed).2) common
  · push Not at proper
    obtain ⟨f, listed, root⟩ := proper
    obtain ⟨dir, found, -⟩ := ofFiles_root filled
    refine ⟨_, found, ?_, fun descending => absurd root (descending f listed).1⟩
    refine iff_of_false ?_ ?_
    · rintro ⟨holds, -⟩
      exact (not_holds_of_root root _ here).1 (holds f.place (List.mem_map_of_mem listed))
    · rintro ⟨returns, -⟩
      exact (not_holds_of_root root _ _).2 (returns f listed)

/-- All files lead up in the part that they have in common, and nowhere else. -/
theorem ofFiles_deepest_shared :
    ofFiles [⟨"/w/a/../src/x.js"⟩, ⟨"/w/a/../y.js"⟩] =
        some ⟨⟨"/w/a/.."⟩, [⟨"/w/a/../src/x.js"⟩, ⟨"/w/a/../y.js"⟩]⟩ ∧
      Place.Deepest (Path.place ⟨"/w/a/.."⟩)
        (List.map Path.place [⟨"/w/a/../src/x.js"⟩, ⟨"/w/a/../y.js"⟩]) := by
  have root : ofFiles [⟨"/w/a/../src/x.js"⟩, ⟨"/w/a/../y.js"⟩] =
      some ⟨⟨"/w/a/.."⟩, [⟨"/w/a/../src/x.js"⟩, ⟨"/w/a/../y.js"⟩]⟩ := by decide +kernel
  obtain ⟨ws, found, -, descending⟩ := ofFiles_deepest_iff
    [⟨"/w/a/../src/x.js"⟩, ⟨"/w/a/../y.js"⟩] (by decide) (by decide)
  rw [root] at found
  cases found
  exact ⟨root, descending (by decide +kernel)⟩

/-- One file lies beside the directory that all paths begin with. -/
theorem ofFiles_astray : ∃ ws,
    ofFiles [⟨"/w/a/../b.js"⟩, ⟨"/w/a/c.js"⟩] = some ws ∧ ws.root.place = ["w", "a"] ∧
      ¬ Place.Holds ws.root.place (Path.place ⟨"/w/a/../b.js"⟩) := by
  refine ⟨⟨⟨"/w/a"⟩, [⟨"/w/a/../b.js"⟩, ⟨"/w/a/c.js"⟩]⟩, by decide +kernel, by decide +kernel, ?_⟩
  rintro ⟨name, begins⟩
  have within : ["w", "a", name] <+: ["w", "b.js"] := begins
  simp [List.cons_prefix_cons] at within

end Workspace

end FixGrader
