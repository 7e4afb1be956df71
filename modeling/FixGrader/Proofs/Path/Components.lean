import FixGrader.Proofs.Path.Place
/-!
# Paths and their components

A path is known by its components alone: separators and dots at its end do not count. The directory
that a path lies in has all its components but the last, components make a path that has just these,
and what two paths have in common at their beginning is the longest sequence that both begin with.
-/
namespace FixGrader.Path

/-- The component that a text has before those of its parts. -/
def lead (p : Path) : List Component :=
  if p.isAbsolute then [.root] else if p.segments.head? = some ['.'] then [.here] else []

theorem components_lead (p : Path) :
    p.components = p.lead ++ p.segments.filterMap componentOf := by
  unfold components lead
  split
  · rfl
  · split
    · rename_i rest parts
      have dropped : componentOf ['.'] = none := rfl
      rw [parts, List.head?_cons, if_pos rfl, List.filterMap_cons, dropped]
      rfl
    · rename_i parts
      have undotted : p.segments.head? ≠ some ['.'] := by
        intro dotted
        obtain ⟨rest, same⟩ := List.head?_eq_some_iff.mp dotted
        exact parts rest same
      rw [if_neg undotted, List.nil_append]

def componentsOf (cs : List Char) : List Component := components ⟨String.ofList cs⟩

theorem components_text (p : Path) : p.components = componentsOf p.text.toList := by
  rw [componentsOf, String.ofList_toList]

/-- What stands behind a separator adds the components of its own parts. -/
theorem componentsOf_behind (before cs : List Char) :
    componentsOf (before ++ '/' :: cs) =
      componentsOf (before ++ ['/']) ++ (splitSlashes cs).filterMap componentOf := by
  have parts : ∀ ds : List Char, segments ⟨String.ofList (before ++ '/' :: ds)⟩ =
      splitSlashes before ++ splitSlashes ds := by
    intro ds
    rw [segments, String.toList_ofList, splitSlashes_append]
  have leads : ∀ ds : List Char, lead ⟨String.ofList (before ++ '/' :: ds)⟩ =
      lead ⟨String.ofList (before ++ ['/'])⟩ := by
    intro ds
    obtain ⟨part, rest, split⟩ := List.exists_cons_of_ne_nil (splitSlashes_ne_nil before)
    have absolute : isAbsolute ⟨String.ofList (before ++ '/' :: ds)⟩ =
        isAbsolute ⟨String.ofList (before ++ ['/'])⟩ := by
      cases before <;> simp [isAbsolute]
    rw [lead, lead, absolute, parts, parts, split]
    rfl
  have nothing : (splitSlashes []).filterMap componentOf = [] := rfl
  rw [componentsOf, componentsOf, components_lead, components_lead, leads, parts, parts,
    List.filterMap_append, List.filterMap_append, nothing, List.append_nil, List.append_assoc]

/-- A separator at the end of a text adds no component. -/
theorem componentsOf_separated {cs : List Char} (filled : cs ≠ []) :
    componentsOf (cs ++ ['/']) = componentsOf cs := by
  obtain ⟨c, rest, rfl⟩ := List.exists_cons_of_ne_nil filled
  obtain ⟨part, parts, split⟩ := List.exists_cons_of_ne_nil (splitSlashes_ne_nil (c :: rest))
  have nothing : (splitSlashes []).filterMap componentOf = [] := rfl
  rw [componentsOf, componentsOf, components_lead, components_lead, segments, segments,
    String.toList_ofList, String.toList_ofList, splitSlashes_append, List.filterMap_append, nothing,
    List.append_nil, List.append_left_inj, lead, lead, isAbsolute, isAbsolute, segments, segments,
    String.toList_ofList, String.toList_ofList, splitSlashes_append, split]
  rfl

/-- A part that is a component is the only one of its text. -/
theorem componentsOf_part {cs : List Char} (plain : '/' ∉ cs) {c : Component}
    (part : componentOf cs = some c) : componentsOf cs = [c] := by
  have relative : isAbsolute ⟨String.ofList cs⟩ = false := by
    cases cs with
    | nil => rfl
    | cons d ds =>
      have other : d ≠ '/' := fun same => plain (by simp [same])
      simpa [isAbsolute] using other
  have undotted : [cs].head? ≠ some ['.'] := by
    intro dotted
    cases dotted
    cases part
  rw [componentsOf, components_lead, lead, segments, String.toList_ofList, splitSlashes_plain plain,
    relative, if_neg Bool.false_ne_true, if_neg undotted, List.filterMap_cons_some part]
  rfl

/-- Separators and dots at the end of a text, which is given backwards, do not count. -/
theorem componentsOf_dropTrailing (cs : List Char) :
    componentsOf (dropTrailing cs).reverse = componentsOf cs.reverse := by
  fun_induction dropTrailing cs with
  | case1 => rfl
  | case2 cs filled ih =>
    rw [ih, List.reverse_cons, componentsOf_separated (by simpa using filled)]
  | case3 cs ih =>
    have dotted : (splitSlashes ['.']).filterMap componentOf = [] := rfl
    rw [ih, List.reverse_cons, List.reverse_cons, List.reverse_cons, List.append_assoc,
      List.singleton_append, componentsOf_behind _ ['.'], dotted, List.append_nil]
  | case4 => rfl

/-- What is left of a text without separators and dots at its end: the root, or a last part that is no
dot, unless the dot is all there is. -/
theorem dropTrailing_cases (cs : List Char) :
    dropTrailing cs = ['/'] ∨ ∃ last before, dropTrailing cs = last ++ before ∧ '/' ∉ last ∧
      (before = [] ∨ last ≠ [] ∧ last ≠ ['.'] ∧ ∃ rest, before = '/' :: rest) := by
  fun_induction dropTrailing cs with
  | case1 => exact Or.inl rfl
  | case2 cs _ ih => exact ih
  | case3 cs ih => exact ih
  | case4 cs unseparated undotted =>
    apply Or.inr
    refine ⟨cs.takeWhile (· != '/'), cs.dropWhile (· != '/'), List.takeWhile_append_dropWhile.symm,
      ?_, ?_⟩
    · intro listed
      have kept := List.mem_takeWhile_imp listed
      simp at kept
    · rcases found : cs.dropWhile (· != '/') with _ | ⟨d, rest⟩
      · exact Or.inl rfl
      have separator : d = '/' := by
        have stopped := List.head?_dropWhile_not (fun c => c != '/') cs
        rw [found] at stopped
        simpa using stopped
      subst separator
      have whole : cs = cs.takeWhile (· != '/') ++ '/' :: rest := by
        rw [← found, List.takeWhile_append_dropWhile]
      refine Or.inr ⟨?_, ?_, rest, rfl⟩
      · intro nothing
        rw [nothing] at whole
        exact unseparated rest whole
      · intro dot
        rw [dot] at whole
        exact undotted rest whole

theorem componentOf_eq_none_iff {part : List Char} :
    componentOf part = none ↔ part = [] ∨ part = ['.'] := by
  unfold componentOf
  split
  · rename_i dropped
    exact iff_of_true rfl dropped
  · rename_i kept
    split <;> exact iff_of_false (Option.some_ne_none _) kept

theorem parent?_eq_none_iff {p : Path} :
    p.parent? = none ↔ p.components = [] ∨ p.components.getLast? = some .root := by
  unfold parent?
  split
  · rename_i none
    exact iff_of_true rfl (Or.inl (List.getLast?_eq_none_iff.mp none))
  · rename_i root
    simp [root]
  · rename_i c unrooted ends
    refine iff_of_false (Option.some_ne_none _) ?_
    rintro (nothing | root)
    · rw [nothing] at ends
      cases ends
    · rw [root] at ends
      cases ends
      exact unrooted rfl

/-- A text is given backwards, its last part first. Without this part it has the components but for
the last one. -/
theorem componentsOf_before {last before : List Char} (plain : '/' ∉ last)
    (apart : before = [] ∨ last ≠ [] ∧ last ≠ ['.'] ∧ ∃ rest, before = '/' :: rest) :
    componentsOf before.reverse = (componentsOf (last ++ before).reverse).dropLast := by
  rw [← List.mem_reverse] at plain
  rw [List.reverse_append]
  rcases apart with rfl | ⟨filled, undotted, rest, rfl⟩
  · rw [List.reverse_nil, List.nil_append]
    cases part : componentOf last.reverse with
    | some c =>
      rw [componentsOf_part plain part]
      rfl
    | none =>
      rcases componentOf_eq_none_iff.mp part with nothing | dot
      · rw [nothing]
        rfl
      · rw [dot]
        rfl
  · obtain ⟨c, part⟩ : ∃ c, componentOf last.reverse = some c := by
      apply Option.ne_none_iff_exists'.mp
      intro dropped
      rcases componentOf_eq_none_iff.mp dropped with nothing | dot
      · exact filled (by simpa using nothing)
      · exact undotted (by rw [← List.reverse_reverse last, dot]; rfl)
    have turned : rest.reverse ++ ['/'] = ('/' :: rest).reverse := (List.reverse_cons).symm
    rw [← turned, List.append_assoc, List.singleton_append, componentsOf_behind _ last.reverse,
      splitSlashes_plain plain, List.filterMap_cons_some part, List.filterMap_nil,
      List.dropLast_concat]

/-- The directory of a path has the components of the path but for the last one. -/
theorem components_parent? {p q : Path} (parent : p.parent? = some q) :
    q.components = p.components.dropLast := by
  have below : p.components.getLast? ≠ some .root := by
    intro root
    rw [parent?_eq_none_iff.mpr (Or.inr root)] at parent
    cases parent
  have kept : p.components = componentsOf (dropTrailing p.text.toList.reverse).reverse := by
    rw [componentsOf_dropTrailing, List.reverse_reverse, ← components_text]
  have directory : q.components =
      componentsOf ((dropTrailing p.text.toList.reverse).dropWhile (· != '/')).reverse := by
    rw [← componentsOf_dropTrailing]
    unfold parent? at parent
    split at parent
    · cases parent
    · cases parent
    · cases parent
      rfl
  rcases dropTrailing_cases p.text.toList.reverse with root | ⟨last, before, text, plain, apart⟩
  · rw [kept, root] at below
    exact absurd rfl below
  have stripped : (last ++ before).dropWhile (· != '/') = before := by
    have named : ∀ c ∈ last, (c != '/') = true := by
      intro c listed
      rw [bne_iff_ne]
      rintro rfl
      exact plain listed
    rw [List.dropWhile_append_of_pos named]
    rcases apart with rfl | ⟨-, -, rest, rfl⟩
    · rfl
    · exact List.dropWhile_cons_of_neg (by simp)
  rw [directory, kept, text, stripped]
  exact componentsOf_before plain apart

/-- Only the empty path has no components. -/
theorem components_eq_nil_iff {p : Path} : p.components = [] ↔ p.text = "" := by
  constructor
  · intro nothing
    rw [components_lead, List.append_eq_nil_iff] at nothing
    obtain ⟨unled, unnamed⟩ := nothing
    have relative : p.isAbsolute = false := by
      rw [← Bool.not_eq_true]
      intro absolute
      rw [lead, if_pos absolute] at unled
      cases unled
    obtain ⟨part, parts, split⟩ := List.exists_cons_of_ne_nil (splitSlashes_ne_nil p.text.toList)
    have segments : p.segments = part :: parts := split
    have dropped : componentOf part = none := by
      rw [List.filterMap_eq_nil_iff, segments] at unnamed
      exact unnamed part List.mem_cons_self
    rcases componentOf_eq_none_iff.mp dropped with rfl | rfl
    · rcases text : p.text.toList with _ | ⟨c, cs⟩
      · exact String.toList_eq_nil_iff.mp text
      · rw [text, splitSlashes] at split
        by_cases separator : c = '/'
        · simp [isAbsolute, text, separator] at relative
        · obtain ⟨first, rest, later⟩ := List.exists_cons_of_ne_nil (splitSlashes_ne_nil cs)
          rw [if_neg separator, later] at split
          cases split
    · simp [lead, relative, segments] at unled
  · intro empty
    rw [components_text, empty]
    rfl

def Component.Inner (c : Component) : Prop :=
  '/' ∉ c.text.toList ∧ componentOf c.text.toList = some c

def Canonical (cs : List Component) : Prop :=
  ∃ first inner, cs = first ++ inner ∧ (first = [] ∨ first = [.root] ∨ first = [.here]) ∧
    ∀ c ∈ inner, c.Inner

theorem slash_not_mem_splitSlashes {cs part : List Char} (listed : part ∈ splitSlashes cs) :
    '/' ∉ part := by
  induction cs generalizing part with
  | nil =>
    rw [splitSlashes, List.mem_singleton] at listed
    simp [listed]
  | cons c cs ih =>
    obtain ⟨first, rest, split⟩ := List.exists_cons_of_ne_nil (splitSlashes_ne_nil cs)
    rw [splitSlashes, split] at listed
    rw [split] at ih
    by_cases separator : c = '/'
    · rw [if_pos separator, List.mem_cons] at listed
      rcases listed with rfl | later
      · exact List.not_mem_nil
      · exact ih later
    · rw [if_neg separator] at listed
      simp only [List.mem_cons] at listed
      rcases listed with rfl | later
      · rw [List.mem_cons, not_or]
        exact ⟨fun same => separator same.symm, ih (by simp)⟩
      · exact ih (List.mem_cons_of_mem _ later)

theorem Component.inner_of_part {part : List Char} (plain : '/' ∉ part) {c : Component}
    (component : componentOf part = some c) : c.Inner := by
  have same : c.text.toList = part := by
    unfold componentOf at component
    split at component
    · cases component
    · split at component
      · rename_i up
        cases component
        rw [up]
        rfl
      · cases component
        exact String.toList_ofList
  rw [Inner, same]
  exact ⟨plain, component⟩

theorem Component.Inner.cases {c : Component} (inner : c.Inner) : c = up ∨ ∃ s, c = name s := by
  cases c with
  | root => exact absurd (by decide) inner.1
  | here => exact absurd inner.2 (by decide)
  | up => exact Or.inl rfl
  | name s => exact Or.inr ⟨s, rfl⟩

theorem inner_of_mem_parts {p : Path} {c : Component}
    (listed : c ∈ p.segments.filterMap componentOf) : c.Inner := by
  obtain ⟨part, split, component⟩ := List.mem_filterMap.mp listed
  exact Component.inner_of_part (slash_not_mem_splitSlashes split) component

/-- An absolute path has the root as its first component, and nowhere else. -/
theorem components_absolute {p : Path} (absolute : p.isAbsolute = true) :
    ∃ inner, p.components = .root :: inner ∧ ∀ c ∈ inner, c.Inner := by
  refine ⟨p.segments.filterMap componentOf, ?_, fun c => inner_of_mem_parts⟩
  rw [components_lead, lead, if_pos absolute]
  rfl

/-- Of the absolute paths only the root lies in no directory. -/
theorem exists_parent? {p : Path} (absolute : p.isAbsolute = true) (below : p.components ≠ [.root]) :
    ∃ q, p.parent? = some q := by
  apply Option.ne_none_iff_exists'.mp
  intro orphan
  obtain ⟨inner, components, inside⟩ := components_absolute absolute
  rw [parent?_eq_none_iff, components] at orphan
  rw [components] at below
  rcases List.eq_nil_or_concat inner with rfl | ⟨front, last, rfl⟩
  · exact below rfl
  · rcases orphan with nothing | root
    · cases nothing
    · rw [List.concat_eq_append, ← List.cons_append, List.getLast?_concat] at root
      cases root
      exact absurd (inside .root (by simp)).1 (by decide)

theorem components_canonical (p : Path) : Canonical p.components := by
  refine ⟨p.lead, p.segments.filterMap componentOf, components_lead p, ?_,
    fun c => inner_of_mem_parts⟩
  unfold lead
  split
  · exact Or.inr (Or.inl rfl)
  · split
    · exact Or.inr (Or.inr rfl)
    · exact Or.inl rfl

theorem Canonical.of_leading {cs ds : List Component} (canonical : Canonical ds)
    (begins : cs <+: ds) : Canonical cs := by
  obtain ⟨first, inner, rfl, lead, inside⟩ := canonical
  rcases List.prefix_or_prefix_of_prefix begins (List.prefix_append first inner) with short | long
  · refine ⟨cs, [], (List.append_nil cs).symm, ?_, by simp⟩
    rcases lead with rfl | rfl | rfl
    · exact Or.inl (List.prefix_nil.mp short)
    · have cut : cs = [] ∨ cs = [.root] := by simpa [List.prefix_cons_iff] using short
      exact cut.imp_right Or.inl
    · have cut : cs = [] ∨ cs = [.here] := by simpa [List.prefix_cons_iff] using short
      exact cut.imp_right Or.inr
  · obtain ⟨rest, rfl⟩ := long
    have within : rest <+: inner := (List.prefix_append_right_inj first).mp begins
    exact ⟨first, rest, rfl, lead, fun c listed => inside c (within.subset listed)⟩

theorem components_join_inner {base : Path} {c : Component} (inner : c.Inner) :
    (base.join ⟨c.text⟩).components = base.components ++ [c] := by
  obtain ⟨plain, component⟩ := inner
  have relative : isAbsolute ⟨c.text⟩ = false := by
    rw [isAbsolute, decide_eq_false_iff_not]
    intro slash
    exact plain (List.mem_of_head? slash)
  rcases join_text base with empty | ⟨before, form, joined⟩
  · have nothing : base.components = [] := by
      rw [components_text, empty]
      rfl
    rw [join_empty empty relative, nothing, components_text, componentsOf_part plain component]
    rfl
  · have own : componentsOf (before ++ ['/']) = base.components := by
      rw [components_text]
      rcases form with same | ⟨same, filled⟩
      · rw [same]
      · rw [same, componentsOf_separated filled]
    rw [components_text, joined _ relative, componentsOf_behind, own, splitSlashes_plain plain,
      List.filterMap_cons_some component, List.filterMap_nil]

theorem components_foldl_join {inner : List Component} (inside : ∀ c ∈ inner, c.Inner)
    (base : Path) :
    (inner.foldl (fun p c => p.join ⟨c.text⟩) base).components = base.components ++ inner := by
  induction inner generalizing base with
  | nil => simp
  | cons c inner ih =>
    rw [List.foldl_cons, ih (fun d listed => inside d (List.mem_cons_of_mem c listed)),
      components_join_inner (inside c List.mem_cons_self), List.append_assoc]
    rfl

/-- The path made of components has just these. -/
theorem components_ofComponents {cs : List Component} (canonical : Canonical cs) :
    (ofComponents cs).components = cs := by
  obtain ⟨first, inner, rfl, lead, inside⟩ := canonical
  have start : (ofComponents first).components = first := by
    rcases lead with rfl | rfl | rfl <;> rfl
  have whole := components_foldl_join inside (ofComponents first)
  rw [start] at whole
  rw [ofComponents, List.foldl_append]
  exact whole

theorem prefix_takeWhile_zip {α : Type} [DecidableEq α] (as bs cs : List α) :
    cs <+: ((as.zip bs).takeWhile fun (x, y) => x = y).map (·.1) ↔ cs <+: as ∧ cs <+: bs := by
  induction cs generalizing as bs with
  | nil => simp
  | cons c cs ih =>
    cases as with
    | nil => simp
    | cons a as =>
      cases bs with
      | nil => simp
      | cons b bs =>
        by_cases same : a = b
        · subst same
          simp only [List.zip_cons_cons, List.takeWhile_cons, decide_true, if_true, List.map_cons,
            List.cons_prefix_cons, ih]
          exact and_and_left
        · have apart : ¬ (c = a ∧ c = b) := fun both => same (both.1.symm.trans both.2)
          simp only [List.zip_cons_cons, List.takeWhile_cons, same, decide_false, Bool.false_eq_true,
            if_false, List.map_nil, List.cons_prefix_cons]
          simp
          tauto

/-- Two paths begin with the same components as far as their common ancestor does. -/
theorem prefix_commonAncestor (a b : Path) (cs : List Component) :
    cs <+: (commonAncestor a b).components ↔ cs <+: a.components ∧ cs <+: b.components := by
  have leading := ((prefix_takeWhile_zip a.components b.components _).mp List.prefix_rfl).1
  rw [commonAncestor, components_ofComponents ((components_canonical a).of_leading leading)]
  exact prefix_takeWhile_zip _ _ _

/-- Some paths begin with the same components as far as the common ancestor of all does. -/
theorem prefix_foldl_commonAncestor (first : Path) (rest : List Path) (cs : List Component) :
    cs <+: (rest.foldl commonAncestor first).components ↔
      ∀ p ∈ first :: rest, cs <+: p.components := by
  induction rest generalizing first with
  | nil => simp
  | cons next rest ih =>
    rw [List.foldl_cons, ih]
    simp only [List.forall_mem_cons, prefix_commonAncestor, and_assoc]

/-- What two paths have in common is written as its components are. -/
theorem ofComponents_commonAncestor (a b : Path) :
    ofComponents (commonAncestor a b).components = commonAncestor a b := by
  have leading := ((prefix_takeWhile_zip a.components b.components _).mp List.prefix_rfl).1
  have canonical := (components_canonical a).of_leading leading
  exact congrArg ofComponents (components_ofComponents canonical)

theorem ofComponents_foldl_commonAncestor (first next : Path) (rest : List Path) :
    ofComponents ((next :: rest).foldl commonAncestor first).components =
      (next :: rest).foldl commonAncestor first := by
  induction rest generalizing first next with
  | nil => exact ofComponents_commonAncestor first next
  | cons other rest ih =>
    rw [List.foldl_cons]
    exact ih (commonAncestor first next) other

end FixGrader.Path
