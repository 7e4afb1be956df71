import FixGrader.Proofs.Rules.Accepted
/-!
# Names that a registry lists

The list of a registry tells each category and each further name as it was written; a name is looked
up in its normal form. So a category is found under its own name exactly if this is written in normal
form, and a further name so written leads to its category unless another rule set has it as a
category.
-/
namespace FixGrader.Registry
variable {r : Registry}

theorem mem_list {m : RuleSet.Summary} (listed : m ∈ r.list) :
    ∃ s ∈ r.ruleSets, s.category = m.category ∧ s.displayName = m.displayName ∧
      ∀ name ∈ m.aliases, r.aliases.get? name = some m.category := by
  obtain ⟨s, stands, rfl⟩ := List.mem_map.mp listed
  refine ⟨s, stands, rfl, rfl, fun name named => ?_⟩
  obtain ⟨⟨name', target⟩, entered, rfl⟩ := List.mem_map.mp named
  obtain ⟨entered, same⟩ := List.mem_filter.mp entered
  cases of_decide_eq_true same
  exact NameTable.get?_eq_some_iff.mpr entered

/-- A rule set is found as the one of its category exactly if the category is in normal form. -/
theorem resolve_own_iff (consistent : r.Consistent) {s : RuleSet} (stands : s ∈ r.ruleSets) :
    r.resolve s.category = some ⟨s, .category⟩ ↔ normalized s.category = s.category := by
  rw [resolve_category_iff]
  constructor
  · exact fun found => (lookup_some found).2.symm
  · intro plain
    rw [plain]
    exact consistent.lookup_of_mem stands

/-- A further name in normal form leads to its rule set, or to the one that has it as category. -/
theorem resolve_further (consistent : r.Consistent) {name target : String}
    (plain : normalized name = name) (named : r.aliases.get? name = some target) :
    (∃ s, r.lookup target = some s ∧ r.lookup name = none ∧
        r.resolve name = some ⟨s, .otherName⟩) ∨
      ∃ s, s.category = name ∧ r.resolve name = some ⟨s, .category⟩ := by
  cases looked : r.lookup name with
  | none =>
    obtain ⟨s, found⟩ := consistent.lookup_of_alias named
    refine Or.inl ⟨s, found, rfl, resolve_otherName_iff.mpr ?_⟩
    rw [plain, named]
    exact ⟨looked, found⟩
  | some s =>
    refine Or.inr ⟨s, (lookup_some looked).2, resolve_category_iff.mpr ?_⟩
    rw [plain]
    exact looked

theorem resolve_further_iff (consistent : r.Consistent) {name target : String}
    (plain : normalized name = name) (named : r.aliases.get? name = some target) :
    (∃ found, found.ruleSet.category = target ∧ r.resolve name = some found) ↔
      ∀ s ∈ r.ruleSets, s.category = name → s.category = target := by
  rcases resolve_further consistent plain named with ⟨s, own, unclaimed, way⟩ | ⟨s, same, way⟩
  · constructor
    · intro _ s' stands same
      have looked := consistent.lookup_of_mem stands
      rw [same, unclaimed] at looked
      cases looked
    · exact fun _ => ⟨_, (lookup_some own).2, way⟩
  · have looked : r.lookup name = some s := by
      rw [← plain]
      exact resolve_category_iff.mp way
    constructor
    · rintro ⟨found, means, way'⟩ s' stands same'
      rw [way] at way'
      cases way'
      rw [same', ← same, means]
    · exact fun meant => ⟨_, meant s (lookup_some looked).1 same, way⟩

/-- What can be reached of what a registry lists: a category under its own name exactly if this is in
normal form; and a further name in normal form exactly if no other rule set has it as category. -/
theorem list_reachable_iff : ∀ (settings : RuleSettings) (r : Registry),
    withSettings settings = .ok r → ∀ m ∈ r.list,
    ((∃ s ∈ r.ruleSets, s.category = m.category ∧ s.displayName = m.displayName ∧
      r.resolve m.category = some ⟨s, .category⟩) ↔ normalized m.category = m.category) ∧
    ∀ name ∈ m.aliases, normalized name = name →
      ((∃ found, found.ruleSet.category = m.category ∧ r.resolve name = some found) ↔
        ∀ s ∈ r.ruleSets, s.category = name → s.category = m.category) := by
  intro settings r accepted m listed
  have consistent := consistent_of_accepted accepted
  obtain ⟨s, stands, category, display, named⟩ := mem_list listed
  constructor
  · constructor
    · rintro ⟨s', stands', category', -, found⟩
      rw [← category'] at found ⊢
      exact (resolve_own_iff consistent stands').mp found
    · intro plain
      rw [← category] at plain
      refine ⟨s, stands, category, display, ?_⟩
      rw [← category]
      exact (resolve_own_iff consistent stands).mpr plain
  · intro name written plain
    exact resolve_further_iff consistent plain (named name written)

def redirectSettings : RuleSettings where
  aliases := .ofList [("ssrf", "open-redirect")]
  custom := [{ category := "open-redirect" }]

def redirectRegistry : Registry where
  ruleSets := builtIn.ruleSets ++ [⟨"open-redirect", "open-redirect", none, [], []⟩]
  aliases := builtIn.aliases.insert "ssrf" "open-redirect"
  defaultCategory := builtIn.defaultCategory

theorem list_reachable_redirect :
    withSettings redirectSettings = .ok redirectRegistry ∧
      redirectRegistry.told "open-redirect" = some ("open-redirect", .category) ∧
      (redirectRegistry.told "ssrf").map (·.1) = some "open-redirect" := by
  have reached := list_reachable_iff redirectSettings redirectRegistry rfl
    ⟨"open-redirect", "open-redirect", [], [], ["ssrf"]⟩ (by decide)
  refine ⟨rfl, ?_, ?_⟩
  · obtain ⟨s, -, category, -, found⟩ := reached.1.mpr (by decide)
    rw [told, found, Option.map_some, category]
  · have apart : ∀ category ∈ redirectRegistry.ruleSets.map (·.category), category ≠ "ssrf" := by
      decide
    obtain ⟨found, category, way⟩ := (reached.2 "ssrf" (by decide) (by decide)).mpr
      fun s stands same => absurd same (apart _ (List.mem_map_of_mem stands))
    rw [told, way, Option.map_some, Option.map_some, category]

/-- A category in capitals is accepted and listed, but its name leads to the default rules. -/
theorem list_unreached_capitals : ∃ r,
    withSettings { custom := [{ category := "SSRF" }] } = .ok r ∧
      "SSRF" ∈ r.list.map (·.category) ∧ r.told "SSRF" = some ("sql-injection", .fallback) :=
  ⟨_, rfl, by decide, by decide⟩

end FixGrader.Registry
