import FixGrader.Proofs.Rules.Layering
/-!
# The four ways to a rule set

A name in normal form is a category, or else a further name, or else it extends a known name with a
dash, or else it is unknown. In a registry that settings give, each of these cases has its own way to
a rule set, and the way tells the case. So the categories that are listed as unresolved are exactly
those with an unknown name.
-/
namespace FixGrader

theorem NameTable.mem_names_iff {α : Type} {t : NameTable α} {name : String} :
    name ∈ t.names ↔ ∃ value, t.get? name = some value := by
  simp only [names, List.mem_map, get?_eq_some_iff, Prod.exists]
  constructor
  · rintro ⟨name', value, listed, rfl⟩
    exact ⟨value, listed⟩
  · rintro ⟨value, listed⟩
    exact ⟨name, value, listed, rfl⟩

namespace Registry
variable {r : Registry} {name : String}

def names (r : Registry) : List String := categories r.ruleSets ++ r.aliases.names

def IsExtension (r : Registry) (name : String) : Prop :=
  ∃ stem ∈ r.names, ∃ suffix, name = stem ++ "-" ++ suffix

def Recognizes (r : Registry) (name : String) : Prop := name ∈ r.names ∨ r.IsExtension name

/-- What a resolution tells about the name that it is found for. -/
structure Resolves (r : Registry) (name : String) (found : Resolution) : Prop where
  category_iff : found.via = .category ↔ name ∈ categories r.ruleSets
  otherName_iff : found.via = .otherName ↔
    name ∉ categories r.ruleSets ∧ name ∈ r.aliases.names
  stem_iff : found.via = .stem ↔ name ∉ r.names ∧ r.IsExtension name
  fallback_iff : found.via = .fallback ↔ ¬ r.Recognizes name
  of_category : found.via = .category → r.lookup name = some found.ruleSet
  of_otherName : found.via = .otherName →
    ∃ target, r.aliases.get? name = some target ∧ r.lookup target = some found.ruleSet
  /-- Of the known names that the name extends the longest one counts: as a further name if it is
  one, else as a category. -/
  of_stem : found.via = .stem → ∃ stem ∈ r.names, (∃ suffix, name = stem ++ "-" ++ suffix) ∧
    (∀ other ∈ r.names, ∀ suffix, name = other ++ "-" ++ suffix → other.length ≤ stem.length) ∧
      r.lookup ((r.aliases.get? stem).getD stem) = some found.ruleSet
  of_fallback : found.via = .fallback → r.lookup r.defaultCategory = some found.ruleSet

theorem mem_names_iff : name ∈ r.names ↔ ∃ target, (name, target) ∈ r.knownNames := by
  rw [names, List.mem_append, NameTable.mem_names_iff]
  simp only [mem_knownNames_iff, lookup_isSome_iff, exists_or]
  exact or_congr_left ⟨fun listed => ⟨name, rfl, listed⟩, fun ⟨_, _, listed⟩ => listed⟩

theorem hasStem_iff {stem : String} :
    hasStem name stem = true ↔ ∃ suffix, name = stem ++ "-" ++ suffix := by
  constructor
  · intro reaches
    obtain ⟨behind, split⟩ := List.isPrefixOf_iff_prefix.mp reaches
    refine ⟨String.ofList behind, String.toList_injective ?_⟩
    simpa [String.toList_append] using split.symm
  · rintro ⟨suffix, rfl⟩
    exact hasStem_append stem suffix

theorem isExtension_iff :
    r.IsExtension name ↔ ∃ known ∈ r.knownNames, hasStem name known.1 = true := by
  constructor
  · rintro ⟨stem, listed, extended⟩
    obtain ⟨target, known⟩ := mem_names_iff.mp listed
    exact ⟨(stem, target), known, hasStem_iff.mpr extended⟩
  · rintro ⟨⟨stem, target⟩, known, extended⟩
    exact ⟨stem, mem_names_iff.mpr ⟨target, known⟩, hasStem_iff.mp extended⟩

instance (r : Registry) (name : String) : Decidable (r.IsExtension name) :=
  decidable_of_iff _ isExtension_iff.symm

instance (r : Registry) (name : String) : Decidable (r.Recognizes name) :=
  inferInstanceAs (Decidable (_ ∨ _))

/-- The longest known name that a name extends, and the rule set that it stands for. -/
theorem exists_longest (consistent : r.Consistent) (extension : r.IsExtension name) :
    ∃ stem ∈ r.names, (∃ suffix, name = stem ++ "-" ++ suffix) ∧
      (∀ other ∈ r.names, ∀ suffix, name = other ++ "-" ++ suffix → other.length ≤ stem.length) ∧
        ∃ s, r.lookup ((r.aliases.get? stem).getD stem) = some s ∧ r.lookupStem name = some s := by
  obtain ⟨⟨stem, target⟩, known, extended, utmost⟩ := exists_utmost (isExtension_iff.mp extension)
  refine ⟨stem, mem_names_iff.mpr ⟨target, known⟩, hasStem_iff.mp extended, ?_, ?_⟩
  · intro other listed suffix extends'
    obtain ⟨target', known'⟩ := mem_names_iff.mp listed
    exact utmost (other, target') known' (hasStem_iff.mpr ⟨suffix, extends'⟩)
  · rw [lookupStem_eq known extended utmost]
    cases stands : r.aliases.get? stem with
    | some target' =>
      obtain ⟨s, looked⟩ := consistent.lookup_of_alias stands
      exact ⟨s, looked, looked⟩
    | none =>
      rcases mem_knownNames_iff.mp known with ⟨-, there⟩ | stands'
      · obtain ⟨s, looked⟩ := Option.isSome_iff_exists.mp there
        exact ⟨s, looked, looked⟩
      · rw [stands] at stands'
        cases stands'

theorem lookup_none_iff : r.lookup name = none ↔ name ∉ categories r.ruleSets := by
  rw [← lookup_isSome_iff, Option.not_isSome_iff_eq_none]

theorem alias_none_iff : r.aliases.get? name = none ↔ name ∉ r.aliases.names := by
  rw [NameTable.mem_names_iff, Option.eq_none_iff_forall_ne_some, not_exists]

section Ways
variable {category : String}

theorem resolves_category (listed : normalized category ∈ categories r.ruleSets) :
    ∃ found, r.resolve category = some found ∧ r.Resolves (normalized category) found := by
  obtain ⟨s, looked⟩ := Option.isSome_iff_exists.mp (lookup_isSome_iff.mpr listed)
  refine ⟨_, resolve_category_iff.mpr looked, ?_⟩
  constructor <;> simp [Recognizes, names, listed, looked]

theorem resolves_otherName (consistent : r.Consistent)
    (unlisted : normalized category ∉ categories r.ruleSets)
    (named : normalized category ∈ r.aliases.names) :
    ∃ found, r.resolve category = some found ∧ r.Resolves (normalized category) found := by
  obtain ⟨target, stands⟩ := NameTable.mem_names_iff.mp named
  obtain ⟨s, looked⟩ := consistent.lookup_of_alias stands
  refine ⟨⟨s, .otherName⟩, resolve_otherName_iff.mpr ⟨lookup_none_iff.mpr unlisted, ?_⟩, ?_⟩
  · rw [stands]
    exact looked
  · constructor <;> simp [Recognizes, names, unlisted, named, stands, looked]

theorem resolves_stem (consistent : r.Consistent) (unknown : normalized category ∉ r.names)
    (extension : r.IsExtension (normalized category)) :
    ∃ found, r.resolve category = some found ∧ r.Resolves (normalized category) found := by
  obtain ⟨unlisted, unnamed⟩ := not_or.mp (mt List.mem_append.mpr unknown)
  obtain ⟨stem, listed, extended, utmost, s, looked, reached⟩ := exists_longest consistent extension
  refine ⟨⟨s, .stem⟩, resolve_stem_iff.mpr ⟨lookup_none_iff.mpr unlisted, ?_, reached⟩, ?_⟩
  · rw [alias_none_iff.mpr unnamed]
    rfl
  · constructor
    case of_stem => exact fun _ => ⟨stem, listed, extended, utmost, looked⟩
    all_goals simp [Recognizes, unknown, unlisted, unnamed, extension]

theorem resolves_fallback (consistent : r.Consistent)
    (unrecognized : ¬ r.Recognizes (normalized category)) :
    ∃ found, r.resolve category = some found ∧ r.Resolves (normalized category) found := by
  obtain ⟨unknown, stemless⟩ := not_or.mp unrecognized
  obtain ⟨unlisted, unnamed⟩ := not_or.mp (mt List.mem_append.mpr unknown)
  obtain ⟨s, standard⟩ := Option.isSome_iff_exists.mp consistent.defaulted
  refine ⟨⟨s, .fallback⟩, ?_, ?_⟩
  · rw [resolve_eq, lookup_none_iff.mpr unlisted, alias_none_iff.mpr unnamed,
      lookupStem_none (mt isExtension_iff.mpr stemless), standard]
    rfl
  · constructor <;> simp [unrecognized, unknown, unlisted, unnamed, stemless, standard]

end Ways

theorem resolves (consistent : r.Consistent) (category : String) :
    ∃ found, r.resolve category = some found ∧ r.Resolves (normalized category) found := by
  by_cases listed : normalized category ∈ categories r.ruleSets
  · exact resolves_category listed
  by_cases named : normalized category ∈ r.aliases.names
  · exact resolves_otherName consistent listed named
  have unknown : normalized category ∉ r.names := by
    rw [names, List.mem_append]
    exact not_or.mpr ⟨listed, named⟩
  by_cases extension : r.IsExtension (normalized category)
  · exact resolves_stem consistent unknown extension
  · exact resolves_fallback consistent (not_or.mpr ⟨unknown, extension⟩)

theorem isUnresolved_eq (consistent : r.Consistent) (category : String) :
    r.isUnresolved category = decide (¬ r.Recognizes (normalized category)) := by
  obtain ⟨found, resolved, resolves⟩ := resolves consistent category
  rw [isUnresolved, resolved]
  exact decide_eq_decide.mpr resolves.fallback_iff

/-- Every category is resolved by the way that its name tells, and the unresolved ones of a list are
those with an unknown name, in their order. -/
theorem resolve_ways : ∀ (settings : RuleSettings) (r : Registry),
    withSettings settings = .ok r →
    (∀ category, ∃ found, r.resolve category = some found ∧
      r.Resolves (normalized category) found) ∧
    ∀ categories, r.unresolved categories =
      categories.filter fun category => ¬ r.Recognizes (normalized category) := by
  intro settings r accepted
  have consistent := consistent_of_accepted accepted
  refine ⟨resolves consistent, fun categories => ?_⟩
  exact List.filter_congr fun category _ => isUnresolved_eq consistent category

/-- With a further name of its own behind `sqli`, a category that extends both has its rules. -/
theorem resolve_ways_blind : ∃ r,
    withSettings { aliases := .ofList [("sqli-blind", "xss")] } = .ok r ∧
      (∃ found, r.resolve " SQLi-Blind-Time" = some found ∧ found.via = .stem ∧
        found.ruleSet.category = "xss") ∧
      r.unresolved ["ssrf", "SQLi-Blind", "csrf-token", "ssrf"] = ["ssrf", "csrf-token", "ssrf"] := by
  let r : Registry := { builtIn with aliases := builtIn.aliases.insert "sqli-blind" "xss" }
  obtain ⟨ways, unresolved⟩ :=
    resolve_ways { aliases := .ofList [("sqli-blind", "xss")] } r rfl
  refine ⟨r, rfl, ?_, (unresolved _).trans (by decide)⟩
  obtain ⟨found, resolved, told⟩ := ways " SQLi-Blind-Time"
  have via : found.via = .stem := told.stem_iff.mpr (by decide)
  obtain ⟨stem, listed, extended, utmost, looked⟩ := told.of_stem via
  have reach : "sqli-blind".length ≤ stem.length := utmost _ (by decide) "time" (by decide)
  have only : ∀ stem ∈ r.names, hasStem (normalized " SQLi-Blind-Time") stem = true →
      "sqli-blind".length ≤ stem.length → (r.aliases.get? stem).getD stem = "xss" := by decide
  refine ⟨found, resolved, via, ?_⟩
  rw [(lookup_some looked).2, only stem listed (hasStem_iff.mpr extended) reach]

end Registry
end FixGrader
