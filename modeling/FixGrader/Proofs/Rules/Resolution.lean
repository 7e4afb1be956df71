import Mathlib.Data.List.Induction
import FixGrader.Rules.Registry
/-!
# How a category is resolved

Unless only the default rule set is left, the name of a category is a known name, or a known name
with a dash and something behind it, and the rule set is the one that this known name stands for.
-/
namespace FixGrader

namespace NameTable
variable {α : Type}

/-- A table gives a value for a name exactly if it has this entry. -/
theorem get?_eq_some_iff {t : NameTable α} {name : String} {value : α} :
    t.get? name = some value ↔ (name, value) ∈ t.entries := by
  constructor
  · intro found
    obtain ⟨⟨name', value'⟩, listed, rfl⟩ := Option.map_eq_some_iff.mp found
    have same : name' = name := by simpa using List.find?_some listed
    exact same ▸ List.mem_of_find?_eq_some listed
  · intro listed
    obtain ⟨entries, ascending⟩ := t
    unfold get?
    induction entries with
    | nil => cases listed
    | cons entry rest ih =>
      obtain ⟨first, rest_ascending⟩ := List.pairwise_cons.mp ascending
      rcases List.mem_cons.mp listed with rfl | later
      · simp
      · have unlike : entry.1 ≠ name := (String.ne_of_lt (first _ later))
        simpa [List.find?_cons, unlike] using ih rest_ascending later

end NameTable

namespace Registry
variable {r : Registry}

/-- A known name that a category begins with, what it stands for, and the rest of the category's
name: nothing, or a dash and anything. -/
structure Extends (r : Registry) (category stem target : String) (rest : List Char) : Prop where
  known : (stem, target) ∈ r.knownNames
  split : (normalized category).toList = stem.toList ++ rest
  dashed : rest = [] ∨ ∃ behind, rest = '-' :: behind

theorem lookup_some {category : String} {s : RuleSet} (h : r.lookup category = some s) :
    s ∈ r.ruleSets ∧ s.category = category :=
  ⟨List.mem_of_find?_eq_some h, by simpa using List.find?_some h⟩

/-- How a name is resolved, without the rules themselves. -/
def told (r : Registry) (category : String) : Option (String × Via) :=
  (r.resolve category).map fun found => (found.ruleSet.category, found.via)

/-- The ways to a rule set in their order; a way is taken only where those before it lead nowhere. -/
theorem resolve_eq (r : Registry) (category : String) :
    r.resolve category =
      ((r.lookup (normalized category)).map (⟨·, .category⟩)).or
        ((((r.aliases.get? (normalized category)).bind r.lookup).map (⟨·, .otherName⟩)).or
          (((r.lookupStem (normalized category)).map (⟨·, .stem⟩)).or
            (((r.lookup r.defaultCategory).or r.ruleSets.head?).map (⟨·, .fallback⟩)))) := by
  unfold resolve
  dsimp only
  cases r.lookup (normalized category) with
  | some s => rfl
  | none =>
    cases (r.aliases.get? (normalized category)).bind r.lookup with
    | some s => rfl
    | none =>
      cases r.lookupStem (normalized category) with
      | some s => rfl
      | none => cases (r.lookup r.defaultCategory).or r.ruleSets.head? <;> rfl

theorem resolve_category_iff {category : String} {s : RuleSet} :
    r.resolve category = some ⟨s, .category⟩ ↔ r.lookup (normalized category) = some s := by
  rw [resolve_eq]
  generalize (r.aliases.get? (normalized category)).bind r.lookup = named
  simp [Option.or_eq_some_iff]

theorem resolve_otherName_iff {category : String} {s : RuleSet} :
    r.resolve category = some ⟨s, .otherName⟩ ↔ r.lookup (normalized category) = none ∧
      (r.aliases.get? (normalized category)).bind r.lookup = some s := by
  rw [resolve_eq]
  generalize (r.aliases.get? (normalized category)).bind r.lookup = named
  simp [Option.or_eq_some_iff]

theorem resolve_stem_iff {category : String} {s : RuleSet} :
    r.resolve category = some ⟨s, .stem⟩ ↔ r.lookup (normalized category) = none ∧
      (r.aliases.get? (normalized category)).bind r.lookup = none ∧
        r.lookupStem (normalized category) = some s := by
  rw [resolve_eq]
  generalize (r.aliases.get? (normalized category)).bind r.lookup = named
  simp [Option.or_eq_some_iff]

theorem mem_knownNames_iff {name target : String} :
    (name, target) ∈ r.knownNames ↔
      (name = target ∧ (r.lookup name).isSome) ∨ r.aliases.get? name = some target := by
  rw [knownNames, List.mem_append, NameTable.get?_eq_some_iff, lookup, List.find?_isSome]
  apply or_congr_left
  constructor
  · intro mapped
    obtain ⟨s, listed, same⟩ := List.mem_map.mp mapped
    obtain ⟨rfl, rfl⟩ := Prod.mk.inj same
    exact ⟨rfl, s, listed, decide_eq_true rfl⟩
  · rintro ⟨rfl, s, listed, named⟩
    exact List.mem_map.mpr ⟨s, listed, by rw [of_decide_eq_true named]⟩

theorem longest_concat (names : List (String × String)) (name : String × String) :
    longest (names ++ [name]) =
      match longest names with
      | none => some name
      | some best => if best.1.utf8ByteSize ≤ name.1.utf8ByteSize then some name else some best := by
  unfold longest
  rw [List.foldl_append]
  rfl

theorem longest_mem {names : List (String × String)} {name : String × String}
    (h : longest names = some name) : name ∈ names := by
  induction names using List.reverseRecOn generalizing name with
  | nil => cases h
  | append_singleton names last ih =>
    rw [longest_concat] at h
    cases best : longest names with
    | none =>
      rw [best] at h
      cases h
      simp
    | some b =>
      rw [best] at h
      dsimp only at h
      split at h
      · cases h
        simp
      · cases h
        exact List.mem_append_left _ (ih best)

theorem extends_of_name {category target : String} {name : String}
    (same : normalized category = name) (known : (name, target) ∈ r.knownNames) :
    r.Extends category name target [] :=
  ⟨known, by rw [same, List.append_nil], Or.inl rfl⟩

theorem extends_of_lookupStem {category : String} {s : RuleSet}
    (h : r.lookupStem (normalized category) = some s) :
    ∃ stem rest, r.Extends category stem s.category rest := by
  obtain ⟨⟨stem, target⟩, chosen, found⟩ := Option.bind_eq_some_iff.mp h
  obtain ⟨known, reaches⟩ := List.mem_filter.mp (longest_mem chosen)
  obtain ⟨behind, split⟩ := List.isPrefixOf_iff_prefix.mp reaches
  refine ⟨stem, '-' :: behind, ?_, ?_, Or.inr ⟨behind, rfl⟩⟩
  · rw [(lookup_some found).2]
    exact known
  · rw [← split, List.append_assoc]
    rfl

theorem resolve_extends {category : String} {found : Resolution}
    (h : r.resolve category = some found) (fits : found.via ≠ .fallback) :
    ∃ stem rest, r.Extends category stem found.ruleSet.category rest := by
  obtain ⟨s, via⟩ := found
  cases via with
  | category =>
    have looked := resolve_category_iff.mp h
    have known : (normalized category, s.category) ∈ r.knownNames :=
      mem_knownNames_iff.mpr (Or.inl ⟨(lookup_some looked).2.symm, by rw [looked]; rfl⟩)
    exact ⟨_, [], extends_of_name rfl known⟩
  | otherName =>
    obtain ⟨target, stands, looked⟩ := Option.bind_eq_some_iff.mp (resolve_otherName_iff.mp h).2
    have known : (normalized category, s.category) ∈ r.knownNames := by
      rw [(lookup_some looked).2]
      exact mem_knownNames_iff.mpr (Or.inr stands)
    exact ⟨_, [], extends_of_name rfl known⟩
  | stem => exact extends_of_lookupStem (resolve_stem_iff.mp h).2.2
  | fallback => exact absurd rfl fits

end Registry

end FixGrader
