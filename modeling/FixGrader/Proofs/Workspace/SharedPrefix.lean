import FixGrader.Proofs.Workspace.Root
/-!
# The root as a longest common prefix

The root of a workspace is found by a fold over the directories of the files, two at a time. What
comes out does not depend on how the fold goes: it is the longest sequence of components that all
these directories begin with, and a dot where they have nothing in common. So the order of the files
does not count, nor how often a file is named, and a further file can only make the root shorter.
-/
namespace FixGrader

/-- The longest sequence that all of some sequences begin with. -/
structure LongestPrefix {α : Type} (cs : List α) (seqs : List (List α)) : Prop where
  begins : ∀ s ∈ seqs, cs <+: s
  longest : ∀ ds, (∀ s ∈ seqs, ds <+: s) → ds <+: cs

namespace LongestPrefix
variable {α : Type} {cs ds : List α} {seqs seqs' : List (List α)}

/-- More sequences have a shorter prefix in common, or the same one. -/
theorem shortens (first : LongestPrefix cs seqs) (second : LongestPrefix ds seqs')
    (more : seqs ⊆ seqs') : ds <+: cs := by
  apply first.longest
  intro s listed
  exact second.begins s (more listed)

theorem unique (first : LongestPrefix cs seqs) (second : LongestPrefix ds seqs')
    (there : seqs ⊆ seqs') (back : seqs' ⊆ seqs) : cs = ds := by
  have shorter : ds <+: cs := first.shortens second there
  have longer : cs <+: ds := second.shortens first back
  exact longer.eq_of_length_le shorter.length_le

end LongestPrefix

/-- The components of the directory that a path lies in; a dot for a path that lies in none, which
is empty or ends in the root. -/
def Path.above (f : Path) : List Path.Component :=
  if f.components = [] ∨ f.components.getLast? = some .root then [.here] else f.components.dropLast

namespace Workspace
open FixGrader.Path

theorem components_directoryOf (f : Path) : (directoryOf f).components = f.above := by
  rw [above, directoryOf]
  cases parent : f.parent? with
  | none =>
    have orphan := parent?_eq_none_iff.mp parent
    rw [if_pos orphan]
    rfl
  | some dir =>
    have below : ¬ (f.components = [] ∨ f.components.getLast? = some .root) := by
      intro orphan
      rw [parent?_eq_none_iff.mpr orphan] at parent
      cases parent
    rw [if_neg below]
    exact components_parent? parent

def sharedBy (first : Path) (rest : List Path) : Path :=
  (rest.map directoryOf).foldl commonAncestor (directoryOf first)

theorem sharedBy_longest (first : Path) (rest : List Path) :
    LongestPrefix (sharedBy first rest).components ((first :: rest).map above) := by
  have directories :
      (first :: rest).map above = ((first :: rest).map directoryOf).map components := by
    rw [List.map_map]
    exact List.map_congr_left fun f _ => (components_directoryOf f).symm
  have common : ∀ cs, cs <+: (sharedBy first rest).components ↔
      ∀ s ∈ (first :: rest).map above, cs <+: s := by
    intro cs
    rw [directories, List.forall_mem_map]
    exact prefix_foldl_commonAncestor (directoryOf first) (rest.map directoryOf) cs
  constructor
  · exact (common _).mp List.prefix_rfl
  · intro ds begins
    exact (common ds).mpr begins

/-- Two files or more have their common part written as its components are. -/
theorem sharedBy_eq {first next first' next' : Path} {rest rest' : List Path}
    (same : (sharedBy first (next :: rest)).components =
      (sharedBy first' (next' :: rest')).components) :
    sharedBy first (next :: rest) = sharedBy first' (next' :: rest') := by
  have written : ∀ first next rest, ofComponents (sharedBy first (next :: rest)).components =
      sharedBy first (next :: rest) := by
    intro first next rest
    exact ofComponents_foldl_commonAncestor (directoryOf first) (directoryOf next) _
  rw [← written, same, written]

/-- The same files have the same in common, in any order and number. -/
theorem components_sharedBy {first first' : Path} {rest rest' : List Path}
    (same : ∀ f, f ∈ first' :: rest' ↔ f ∈ first :: rest) :
    (sharedBy first' rest').components = (sharedBy first rest).components := by
  apply (sharedBy_longest first' rest').unique (sharedBy_longest first rest)
  · exact List.map_subset _ fun f listed => (same f).mp listed
  · exact List.map_subset _ fun f listed => (same f).mpr listed

theorem sharedBy_perm {first first' : Path} {rest rest' : List Path}
    (perm : (first :: rest).Perm (first' :: rest')) :
    sharedBy first' rest' = sharedBy first rest := by
  have same := components_sharedBy fun f => perm.symm.mem_iff
  cases rest with
  | nil =>
    have alone : first' :: rest' = [first] := List.perm_singleton.mp perm.symm
    cases alone
    rfl
  | cons next rest =>
    cases rest' with
    | nil =>
      have alone : first :: next :: rest = [first'] := List.perm_singleton.mp perm
      cases alone
    | cons next' rest' => exact sharedBy_eq same

def orHere (cs : List Component) : List Component := if cs = [] then [.here] else cs

/-- With fewer components left, these come first among those before, or they are a dot. -/
theorem orHere_of_prefix {cs ds : List Component} (shorter : ds <+: cs) :
    orHere ds <+: orHere cs ∨ orHere ds = [.here] := by
  by_cases nothing : ds = []
  · apply Or.inr
    rw [orHere, if_pos nothing]
  · have something : cs ≠ [] := by
      rintro rfl
      exact nothing (List.prefix_nil.mp shorter)
    apply Or.inl
    rw [orHere, orHere, if_neg nothing, if_neg something]
    exact shorter

def rootOf (shared : Path) : Path := if shared.text.isEmpty then here else shared

theorem components_rootOf (shared : Path) :
    (rootOf shared).components = orHere shared.components := by
  by_cases empty : shared.text = ""
  · rw [rootOf, orHere, if_pos (by simp [empty]), if_pos (components_eq_nil_iff.mpr empty)]
    rfl
  · have something : shared.components ≠ [] :=
      fun nothing => empty (components_eq_nil_iff.mp nothing)
    rw [rootOf, orHere, if_neg (by simp [empty]), if_neg something]

theorem ofFiles_cons (first : Path) (rest : List Path) :
    ofFiles (first :: rest) = some ⟨rootOf (sharedBy first rest), first :: rest⟩ := rfl

/-- There is a root for all files, relative or absolute, as long as there are any: it has the
components that their directories all begin with, as many as there are, or is a dot if there are
none. It is the same one for the files in any order; files that are repeated do not change its
components; and where files are added, the root that is found comes before it or is a dot. -/
theorem ofFiles_longestPrefix (files : List Path) (filled : files ≠ []) :
    ∃ root shared, ofFiles files = some ⟨root, files⟩ ∧
      LongestPrefix shared (files.map above) ∧ root.components = orHere shared ∧
      (∀ files', files.Perm files' → ofFiles files' = some ⟨root, files'⟩) ∧
      (∀ files', (∀ f, f ∈ files' ↔ f ∈ files) →
        ∃ root', ofFiles files' = some ⟨root', files'⟩ ∧ root'.components = root.components) ∧
      ∀ files', files ⊆ files' → ∃ root', ofFiles files' = some ⟨root', files'⟩ ∧
        (root'.components <+: root.components ∨ root'.components = [.here]) := by
  obtain ⟨first, rest, rfl⟩ := List.exists_cons_of_ne_nil filled
  have filled' : ∀ files', first :: rest ⊆ files' → ∃ first' rest', files' = first' :: rest' := by
    intro files' more
    exact List.exists_cons_of_ne_nil (List.ne_nil_of_mem (more List.mem_cons_self))
  refine ⟨rootOf (sharedBy first rest), (sharedBy first rest).components, ofFiles_cons first rest,
    sharedBy_longest first rest, components_rootOf _, ?_, ?_, ?_⟩
  · intro files' perm
    obtain ⟨first', rest', rfl⟩ := filled' files' perm.subset
    rw [ofFiles_cons, sharedBy_perm perm]
  · intro files' same
    obtain ⟨first', rest', rfl⟩ := filled' files' fun f listed => (same f).mpr listed
    refine ⟨_, ofFiles_cons first' rest', ?_⟩
    rw [components_rootOf, components_rootOf, components_sharedBy same]
  · intro files' more
    obtain ⟨first', rest', rfl⟩ := filled' files' more
    refine ⟨_, ofFiles_cons first' rest', ?_⟩
    rw [components_rootOf, components_rootOf]
    apply orHere_of_prefix
    exact (sharedBy_longest first rest).shortens (sharedBy_longest first' rest')
      (List.map_subset _ more)

/-- A path that climbs, and one that is written with a separator too many. -/
def untidyFiles : List Path := [⟨"/w/src/../a.js"⟩, ⟨"/w//src/b/c.js"⟩]

theorem ofFiles_longestPrefix_untidy :
    untidyFiles ≠ [] ∧ ofFiles untidyFiles = some ⟨⟨"/w/src"⟩, untidyFiles⟩ ∧
      LongestPrefix [.root, .name "w", .name "src"] (untidyFiles.map above) ∧
      ofFiles untidyFiles.reverse = some ⟨⟨"/w/src"⟩, untidyFiles.reverse⟩ ∧
      ∃ root, ofFiles (⟨"d.js"⟩ :: untidyFiles) = some ⟨root, ⟨"d.js"⟩ :: untidyFiles⟩ ∧
        (root.components <+: [.root, .name "w", .name "src"] ∨ root.components = [.here]) := by
  have filled : untidyFiles ≠ [] := List.cons_ne_nil _ _
  have known : ofFiles untidyFiles = some ⟨⟨"/w/src"⟩, untidyFiles⟩ := by decide +kernel
  have components : Path.components ⟨"/w/src"⟩ = [.root, .name "w", .name "src"] := by
    decide +kernel
  obtain ⟨root, shared, found, longest, written, reordered, -, extended⟩ :=
    ofFiles_longestPrefix untidyFiles filled
  rw [known] at found
  cases found
  rw [components] at written extended
  have same : shared = [.root, .name "w", .name "src"] := by
    by_cases nothing : shared = []
    · rw [orHere, if_pos nothing] at written
      cases written
    · rw [orHere, if_neg nothing] at written
      exact written.symm
  rw [same] at longest
  refine ⟨filled, known, longest, ?_, ?_⟩
  · exact reordered _ (List.reverse_perm untidyFiles).symm
  · exact extended _ (List.subset_cons_self _ _)

end Workspace

end FixGrader
