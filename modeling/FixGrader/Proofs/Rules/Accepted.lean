import FixGrader.Proofs.Rules.Resolution
/-!
# Registries that settings give

Whatever settings are laid over the built-in rules: if they are accepted at all, no two rule sets have
one category, each further name stands for a category that has a rule set, and so does the default
category. What is put in later replaces but never takes away.
-/
namespace FixGrader.Registry

theorem mem_putRuleSet {s t : RuleSet} {sets : List RuleSet} (h : t ∈ putRuleSet s sets) :
    t = s ∨ t ∈ sets := by
  induction sets with
  | nil => exact Or.inl (by simpa [putRuleSet] using h)
  | cons first rest ih =>
    rw [putRuleSet] at h
    split at h
    · rcases List.mem_cons.mp h with same | later
      · exact Or.inl same
      · exact Or.inr (List.mem_cons_of_mem _ later)
    · rcases List.mem_cons.mp h with rfl | later
      · exact Or.inr List.mem_cons_self
      · exact (ih later).imp id (List.mem_cons_of_mem _)

theorem putRuleSet_distinct (s : RuleSet) {sets : List RuleSet}
    (distinct : sets.Pairwise (·.category ≠ ·.category)) :
    (putRuleSet s sets).Pairwise (·.category ≠ ·.category) := by
  induction sets with
  | nil => exact List.pairwise_singleton _ s
  | cons first rest ih =>
    obtain ⟨apart, rest_distinct⟩ := List.pairwise_cons.mp distinct
    rw [putRuleSet]
    split
    · rename_i same
      refine List.pairwise_cons.mpr ⟨fun t listed => ?_, rest_distinct⟩
      exact same ▸ apart t listed
    · rename_i unlike
      refine List.pairwise_cons.mpr ⟨fun t listed => ?_, ih rest_distinct⟩
      rcases mem_putRuleSet listed with rfl | later
      · exact unlike
      · exact apart t later

/-- A rule set that is put in leaves every category with a rule set that has one. -/
theorem find_putRuleSet (s : RuleSet) {sets : List RuleSet} {category : String}
    (found : (sets.find? (·.category = category)).isSome) :
    ((putRuleSet s sets).find? (·.category = category)).isSome := by
  rw [List.find?_isSome] at found ⊢
  obtain ⟨t, listed, named⟩ := found
  induction sets with
  | nil => cases listed
  | cons first rest ih =>
    rw [putRuleSet]
    split
    · rename_i same
      rcases List.mem_cons.mp listed with rfl | later
      · exact ⟨s, List.mem_cons_self, by simpa [← same] using named⟩
      · exact ⟨t, List.mem_cons_of_mem _ later, named⟩
    · rcases List.mem_cons.mp listed with rfl | later
      · exact ⟨t, List.mem_cons_self, named⟩
      · obtain ⟨t', listed', named'⟩ := ih later
        exact ⟨t', List.mem_cons_of_mem _ listed', named'⟩

structure Consistent (r : Registry) : Prop where
  distinct : r.ruleSets.Pairwise (·.category ≠ ·.category)
  grounded : ∀ entry ∈ r.aliases.entries, (r.lookup entry.2).isSome
  defaulted : (r.lookup r.defaultCategory).isSome

theorem builtIn_consistent : builtIn.Consistent := by
  have distinct : (builtIn.ruleSets.map (·.category)).Nodup := by decide
  have grounded : ∀ entry ∈ builtIn.aliases.entries,
      entry.2 ∈ builtIn.ruleSets.map (·.category) := by decide
  have defaulted : builtIn.defaultCategory ∈ builtIn.ruleSets.map (·.category) := by decide
  have looked : ∀ category ∈ builtIn.ruleSets.map (·.category),
      (builtIn.lookup category).isSome := by
    intro category listed
    obtain ⟨s, listed, same⟩ := List.mem_map.mp listed
    exact List.find?_isSome.mpr ⟨s, listed, by simpa using same⟩
  constructor
  · exact List.pairwise_map.mp distinct
  · exact fun entry listed => looked _ (grounded entry listed)
  · exact looked _ defaulted

theorem Consistent.addCustom {r r' : Registry} {custom : CustomRuleSet} (consistent : r.Consistent)
    (h : r.addCustom custom = .ok r') : r'.Consistent := by
  unfold Registry.addCustom at h
  cases compiled : RuleSet.ofCustom custom with
  | error e =>
    rw [compiled] at h
    cases h
  | ok s =>
    rw [compiled] at h
    cases h
    constructor
    · exact putRuleSet_distinct s consistent.distinct
    · exact fun entry listed => find_putRuleSet s (consistent.grounded entry listed)
    · exact find_putRuleSet s consistent.defaulted

theorem Consistent.addAlias {r r' : Registry} {entry : String × String} (consistent : r.Consistent)
    (h : r.addAlias entry = .ok r') : r'.Consistent := by
  unfold Registry.addAlias at h
  split at h
  · rename_i known
    cases h
    constructor
    · exact consistent.distinct
    · intro entry' listed
      rcases NameTable.mem_put listed with rfl | earlier
      · exact known
      · exact consistent.grounded entry' earlier
    · exact consistent.defaulted
  · cases h

/-- What every step of a fold keeps holds of its result. -/
theorem foldlM_keeps {α σ ε : Type} {P : σ → Prop} {f : σ → α → Except ε σ}
    (keeps : ∀ {s s' : σ} {a : α}, P s → f s a = .ok s' → P s') {l : List α} {s s' : σ}
    (before : P s) (h : l.foldlM f s = .ok s') : P s' := by
  induction l generalizing s with
  | nil =>
    cases h
    exact before
  | cons a l ih =>
    rw [List.foldlM_cons] at h
    cases next : f s a with
    | error e =>
      rw [next] at h
      cases h
    | ok s₁ =>
      rw [next] at h
      exact ih (keeps before next) h

theorem consistent_of_accepted {settings : RuleSettings} {r : Registry}
    (accepted : withSettings settings = .ok r) : r.Consistent := by
  unfold withSettings at accepted
  cases customized : settings.custom.foldlM addCustom builtIn with
  | error e =>
    rw [customized] at accepted
    cases accepted
  | ok r₁ =>
    rw [customized] at accepted
    have before : r₁.Consistent :=
      foldlM_keeps (fun consistent h => consistent.addCustom h) builtIn_consistent customized
    exact foldlM_keeps (fun consistent h => consistent.addAlias h) before accepted

namespace Consistent
variable {r : Registry}

/-- The rule set of a category is the only one of it. -/
theorem lookup_of_mem (consistent : r.Consistent) {s : RuleSet} (listed : s ∈ r.ruleSets) :
    r.lookup s.category = some s := by
  obtain ⟨before, behind, split⟩ := List.append_of_mem listed
  have distinct := consistent.distinct
  rw [split] at distinct
  have apart := (List.pairwise_append.mp distinct).2.2
  unfold lookup
  rw [split, List.find?_append, List.find?_eq_none.mpr, Option.none_or, List.find?_cons_of_pos]
  · simp
  · intro t earlier
    simpa using apart t earlier s List.mem_cons_self

theorem lookup_of_alias (consistent : r.Consistent) {name target : String}
    (stands : r.aliases.get? name = some target) : ∃ s, r.lookup target = some s :=
  Option.isSome_iff_exists.mp (consistent.grounded _ (NameTable.get?_eq_some_iff.mp stands))

/-- Every category leads to some rule set, at least to that of the default category. -/
theorem resolve_isSome (consistent : r.Consistent) (category : String) :
    (r.resolve category).isSome := by
  obtain ⟨s, standard⟩ := Option.isSome_iff_exists.mp consistent.defaulted
  rw [resolve_eq, standard]
  simp

end Consistent

end FixGrader.Registry
