import Mathlib.Data.List.Forall2
import FixGrader.Proofs.Rules.Resolution
/-!
# Rule sets with their patterns in another order

Which rule set a category leads to depends on the names of the rule sets and not on their patterns.
So registries that differ in the order of patterns only lead to rule sets that differ in this only,
and by the same way.
-/
namespace FixGrader

structure RuleSet.Reordered (s s' : RuleSet) : Prop where
  category_eq : s'.category = s.category
  displayName_eq : s'.displayName = s.displayName
  recommendation_eq : s'.recommendation = s.recommendation
  vulnerable : s.vulnerable.Perm s'.vulnerable
  secure : s.secure.Perm s'.secure

/-- Two registries whose rule sets differ in the order of their patterns only. -/
structure Registry.Reordered (r r' : Registry) : Prop where
  ruleSets : List.Forall₂ RuleSet.Reordered r.ruleSets r'.ruleSets
  aliases_eq : r'.aliases = r.aliases
  default_eq : r'.defaultCategory = r.defaultCategory

structure Resolution.Reordered (found found' : Resolution) : Prop where
  ruleSet : found.ruleSet.Reordered found'.ruleSet
  via_eq : found'.via = found.via

namespace RuleSet.Reordered
variable {sets sets' : List RuleSet}

theorem find? (reordered : List.Forall₂ RuleSet.Reordered sets sets') (category : String) :
    Option.Rel RuleSet.Reordered (sets.find? (·.category = category))
      (sets'.find? (·.category = category)) := by
  induction reordered with
  | nil => exact .none
  | @cons s s' rest rest' same _ ih =>
    rw [List.find?_cons, List.find?_cons, same.category_eq]
    split
    · exact .some same
    · exact ih

theorem head? (reordered : List.Forall₂ RuleSet.Reordered sets sets') :
    Option.Rel RuleSet.Reordered sets.head? sets'.head? := by
  cases reordered with
  | nil => exact .none
  | cons same _ => exact .some same

theorem map_category (reordered : List.Forall₂ RuleSet.Reordered sets sets') :
    sets'.map (·.category) = sets.map (·.category) := by
  induction reordered with
  | nil => rfl
  | cons same _ ih => rw [List.map_cons, List.map_cons, ih, same.category_eq]

end RuleSet.Reordered

namespace Registry.Reordered
variable {r r' : Registry}

theorem lookup (reordered : r.Reordered r') (category : String) :
    Option.Rel RuleSet.Reordered (r.lookup category) (r'.lookup category) :=
  RuleSet.Reordered.find? reordered.ruleSets category

theorem bind_lookup (reordered : r.Reordered r') (target : Option String) :
    Option.Rel RuleSet.Reordered (target.bind r.lookup) (target.bind r'.lookup) := by
  cases target with
  | none => exact .none
  | some category => exact reordered.lookup category

theorem knownNames_eq (reordered : r.Reordered r') : r'.knownNames = r.knownNames := by
  have categories := congrArg (List.map fun category => (category, category))
    (RuleSet.Reordered.map_category reordered.ruleSets)
  rw [List.map_map, List.map_map] at categories
  exact congrArg₂ (· ++ ·) categories (congrArg NameTable.entries reordered.aliases_eq)

theorem lookupStem (reordered : r.Reordered r') (name : String) :
    Option.Rel RuleSet.Reordered (r.lookupStem name) (r'.lookupStem name) := by
  unfold Registry.lookupStem
  rw [reordered.knownNames_eq]
  cases longest (r.knownNames.filter fun known => hasStem name known.1) with
  | none => exact .none
  | some known => exact reordered.lookup known.2

/-- Of two choices that correspond to each other in both registries, the first one is taken in both
or in none. -/
theorem or {α : Type} {R : α → α → Prop} {a a' b b' : Option α} (first : Option.Rel R a a')
    (second : Option.Rel R b b') : Option.Rel R (a.or b) (a'.or b') := by
  cases first with
  | some same => exact .some same
  | none => exact second

theorem resolvedVia {a a' : Option RuleSet} (via : Via)
    (ways : Option.Rel RuleSet.Reordered a a') :
    Option.Rel Resolution.Reordered (a.map (⟨·, via⟩)) (a'.map (⟨·, via⟩)) := by
  cases ways with
  | some same => exact .some ⟨same, rfl⟩
  | none => exact .none

theorem resolve (reordered : r.Reordered r') (category : String) :
    Option.Rel Resolution.Reordered (r.resolve category) (r'.resolve category) := by
  rw [resolve_eq, resolve_eq, reordered.aliases_eq, reordered.default_eq]
  refine or (resolvedVia _ (reordered.lookup _)) (or (resolvedVia _ (reordered.bind_lookup _))
    (or (resolvedVia _ (reordered.lookupStem _)) (resolvedVia _ (or (reordered.lookup _) ?_))))
  exact RuleSet.Reordered.head? reordered.ruleSets

end Registry.Reordered

end FixGrader
