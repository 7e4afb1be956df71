import Mathlib.Data.List.DropRight
import FixGrader.Disk
/-!
# The place that a path names

A path is followed by its text alone: no link counts, and nothing need exist. From a place a relative
path first climbs some levels and then goes down by names, and from which place it started is
forgotten exactly as far as it climbs. To join two paths is to follow the one and then the other.
-/
namespace FixGrader.Path

theorem splitSlashes_ne_nil (cs : List Char) : splitSlashes cs ≠ [] := by
  cases cs with
  | nil => simp [splitSlashes]
  | cons c cs =>
    rw [splitSlashes]
    split
    · simp
    · split <;> simp

theorem splitSlashes_plain {cs : List Char} (h : '/' ∉ cs) : splitSlashes cs = [cs] := by
  induction cs with
  | nil => rfl
  | cons c cs ih =>
    rw [List.mem_cons, not_or] at h
    rw [splitSlashes, if_neg (fun same => h.1 same.symm), ih h.2]

theorem splitSlashes_append (cs ds : List Char) :
    splitSlashes (cs ++ '/' :: ds) = splitSlashes cs ++ splitSlashes ds := by
  induction cs with
  | nil => simp [splitSlashes]
  | cons c cs ih =>
    rw [List.cons_append, splitSlashes, splitSlashes, ih]
    split
    · rfl
    · obtain ⟨part, parts, same⟩ := List.exists_cons_of_ne_nil (splitSlashes_ne_nil cs)
      rw [same]
      rfl

def Component.enter (place : Place) : Component → Place
  | root => []
  | here => place
  | up => place.dropLast
  | name s => place ++ [s]

/-- The place that a path names when it starts from a place. -/
def placeFrom (p : Path) (start : Place) : Place := p.components.foldl Component.enter start

def place (p : Path) : Place := p.placeFrom []

theorem placeFrom_segments (p : Path) (start : Place) :
    p.placeFrom start = (p.segments.filterMap componentOf).foldl Component.enter
      (if p.isAbsolute then [] else start) := by
  unfold placeFrom components
  split
  · rfl
  · split
    · rename_i rest parts
      have dropped : componentOf ['.'] = none := rfl
      rw [parts, List.filterMap_cons, dropped]
      rfl
    · rfl

theorem placeFrom_absolute {p : Path} (absolute : p.isAbsolute = true) (a b : Place) :
    p.placeFrom a = p.placeFrom b := by
  rw [placeFrom_segments, placeFrom_segments, if_pos absolute, if_pos absolute]

theorem join_absolute (base : Path) {child : Path} (absolute : child.isAbsolute = true) :
    base.join child = child := by
  rw [join, if_pos absolute]

theorem join_empty {base : Path} (empty : base.text = "") {child : Path}
    (relative : child.isAbsolute = false) : base.join child = child := by
  rw [join, relative, if_neg Bool.false_ne_true, if_pos (Or.inl (by simp [empty])), empty,
    String.empty_append]

/-- A relative path is put behind an empty path, or behind one separator. -/
theorem join_text (base : Path) : base.text = "" ∨ ∃ before : List Char,
    (base.text.toList = before ++ ['/'] ∨ base.text.toList = before ∧ before ≠ []) ∧
      ∀ child : Path, child.isAbsolute = false →
        (base.join child).text.toList = before ++ '/' :: child.text.toList := by
  by_cases empty : base.text = ""
  · exact Or.inl empty
  apply Or.inr
  by_cases ends : base.text.toList.getLast? = some '/'
  · obtain ⟨before, same⟩ := List.getLast?_eq_some_iff.mp ends
    refine ⟨before, Or.inl same, fun child relative => ?_⟩
    rw [join, relative, if_neg Bool.false_ne_true, if_pos (Or.inr ends), String.toList_append, same]
    simp
  · refine ⟨base.text.toList, Or.inr ⟨rfl, by simpa using empty⟩, fun child relative => ?_⟩
    rw [join, relative, if_neg Bool.false_ne_true, if_neg (by simp [empty, ends]),
      String.toList_append, String.toList_append]
    simp

/-- The parts of a relative path follow those of the base, unless the base is empty. -/
theorem join_relative (base : Path) {child : Path} (relative : child.isAbsolute = false) :
    (base.text = "" ∧ base.join child = child) ∨
      (base.join child).isAbsolute = base.isAbsolute ∧
        (base.join child).segments.filterMap componentOf =
          base.segments.filterMap componentOf ++ child.segments.filterMap componentOf := by
  rcases join_text base with empty | ⟨before, form, joined⟩
  · exact Or.inl ⟨empty, join_empty empty relative⟩
  · apply Or.inr
    constructor
    · rw [isAbsolute, isAbsolute, joined child relative]
      rcases form with same | ⟨same, filled⟩
      · rw [same]
        cases before <;> rfl
      · obtain ⟨c, cs, rfl⟩ := List.exists_cons_of_ne_nil filled
        rw [same]
        rfl
    · rw [segments, segments, segments, joined child relative, splitSlashes_append,
        List.filterMap_append]
      rcases form with same | ⟨same, -⟩
      · have nothing : componentOf [] = none := rfl
        rw [same, splitSlashes_append, List.filterMap_append]
        simp [splitSlashes, nothing]
      · rw [same]

/-- To follow a joined path is to follow the base first. -/
theorem placeFrom_join (base child : Path) (start : Place) :
    (base.join child).placeFrom start = child.placeFrom (base.placeFrom start) := by
  cases absolute : child.isAbsolute with
  | true =>
    rw [join_absolute base absolute]
    exact placeFrom_absolute absolute _ _
  | false =>
    rcases join_relative base absolute with ⟨empty, same⟩ | ⟨start_same, parts⟩
    · have stays : base.placeFrom start = start := by
        obtain ⟨text⟩ := base
        cases empty
        rfl
      rw [same, stays]
    · rw [placeFrom_segments, start_same, parts, List.foldl_append, ← placeFrom_segments,
        placeFrom_segments child, absolute, if_neg Bool.false_ne_true]

/-- Goes on by one component from a course: the levels climbed so far, and the names gone down by
since. -/
def Component.follow : Nat × Place → Component → Nat × Place
  | _, root => (0, [])
  | course, here => course
  | (climbed, below), up => if below = [] then (climbed + 1, []) else (climbed, below.dropLast)
  | (climbed, below), name s => (climbed, below ++ [s])

def course (p : Path) : Nat × Place := p.components.foldl Component.follow (0, [])

/-- How many levels a path climbs above the place where it starts. -/
def climb (p : Path) : Nat := p.course.1

theorem dropLast_rdrop (place : Place) (n : Nat) :
    (place.rdrop n).dropLast = place.rdrop (n + 1) := by
  rw [List.rdrop, List.rdrop, List.dropLast_eq_take, List.take_take, List.length_take]
  congr 1
  omega

theorem Component.enter_follow {c : Component} (below_root : c ≠ root) (start : Place)
    (way : Nat × Place) :
    enter (start.rdrop way.1 ++ way.2) c = start.rdrop (follow way c).1 ++ (follow way c).2 := by
  obtain ⟨climbed, below⟩ := way
  cases c with
  | root => exact absurd rfl below_root
  | here => rfl
  | up =>
    by_cases empty : below = []
    · subst empty
      rw [follow, if_pos rfl, List.append_nil, List.append_nil]
      exact dropLast_rdrop start climbed
    · rw [follow, if_neg empty]
      exact List.dropLast_append_of_ne_nil empty
  | name s =>
    rw [follow, ← List.append_assoc]
    rfl

theorem root_not_mem_components {p : Path} (relative : p.isAbsolute = false) :
    Component.root ∉ p.components := by
  have apart : ∀ parts : List (List Char), Component.root ∉ parts.filterMap componentOf := by
    intro parts listed
    obtain ⟨part, -, same⟩ := List.mem_filterMap.mp listed
    unfold componentOf at same
    split at same
    · cases same
    · split at same <;> cases same
  rw [components, relative, if_neg Bool.false_ne_true]
  split
  · rw [List.mem_cons, not_or]
    exact ⟨Component.noConfusion, apart _⟩
  · exact apart _

/-- Components below the root lead out of a place by the levels that they climb, and on by names. -/
theorem foldl_enter {cs : List Component} (rootless : Component.root ∉ cs) (start : Place) :
    cs.foldl Component.enter start =
      start.rdrop (cs.foldl Component.follow (0, [])).1 ++
        (cs.foldl Component.follow (0, [])).2 := by
  have follows : ∀ way : Nat × Place,
      cs.foldl Component.enter (start.rdrop way.1 ++ way.2) =
        start.rdrop (cs.foldl Component.follow way).1 ++ (cs.foldl Component.follow way).2 := by
    induction cs with
    | nil => exact fun _ => rfl
    | cons c cs ih =>
      intro way
      rw [List.mem_cons, not_or] at rootless
      rw [List.foldl_cons, List.foldl_cons,
        Component.enter_follow (fun same => rootless.1 same.symm) start way]
      exact ih rootless.2 _
  have whole := follows (0, [])
  rw [List.rdrop_zero, List.append_nil] at whole
  exact whole

/-- A relative path leaves its start by the levels that it climbs, and goes on by names. -/
theorem placeFrom_relative {p : Path} (relative : p.isAbsolute = false) (start : Place) :
    p.placeFrom start = start.rdrop p.climb ++ p.course.2 :=
  foldl_enter (root_not_mem_components relative) start

/-- Two starts make no difference to a path that is absolute or climbs above all that they differ
in. -/
theorem placeFrom_eq_iff (p : Path) (a b : Place) :
    p.placeFrom a = p.placeFrom b ↔
      p.isAbsolute = true ∨ a.rdrop p.climb = b.rdrop p.climb := by
  cases absolute : p.isAbsolute with
  | true => exact ⟨fun _ => Or.inl rfl, fun _ => placeFrom_absolute absolute a b⟩
  | false =>
    rw [placeFrom_relative absolute, placeFrom_relative absolute, List.append_left_inj]
    simp

end FixGrader.Path
