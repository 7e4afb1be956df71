import FixGrader.Proofs.Rules.Resolution
import FixGrader.Proofs.Text.Words
/-!
# Families and rule sets

The quick check goes by words in the name of a category, the full check by the known name at its
beginning. When both mean the same is told by the words in what follows the known name.
-/
namespace FixGrader.QuickCheck
open Text (Lettered)

/-- The words that are looked for before those of a family. -/
def Family.wordsBefore (f : Family) : List String :=
  (Family.words.takeWhile (·.2 ≠ f)).flatMap (·.1)

def Family.wordsOf (f : Family) : List String :=
  ((Family.words.find? (·.2 = f)).map (·.1)).getD []

def Family.all : List Family := [.sqlInjection, .xss, .auth, .pathTraversal]

theorem hasAny_append (ws ws' : List String) (text : String) :
    hasAny (ws ++ ws') text = (hasAny ws text || hasAny ws' text) := List.any_append

/-- The family of a category is the one that has a word in its name, with none before it. -/
theorem ofCategory_iff (category : String) (f : Family) :
    Family.ofCategory category = some f ↔
      hasAny f.wordsBefore (Text.lower category) = false ∧
        hasAny f.wordsOf (Text.lower category) = true := by
  unfold Family.ofCategory Family.wordsBefore Family.wordsOf Family.words
  simp only [List.find?_cons, List.find?_nil]
  have none : hasAny [] (Text.lower category) = false := rfl
  generalize Text.lower category = name at none ⊢
  cases f
  all_goals
    simp only [List.takeWhile_cons, List.flatMap_cons, List.flatMap_nil, List.append_nil, decide_true,
      decide_false, reduceCtorEq, ne_eq, not_true_eq_false, not_false_eq_true, Option.map_some,
      Option.getD_some, hasAny_append, none, Bool.false_eq_true, if_true, if_false]
    cases hasAny ["sql", "injection"] name <;> cases hasAny ["xss", "scripting"] name <;>
      cases hasAny ["auth", "jwt", "access", "misconfig"] name <;>
      cases hasAny ["path", "traversal", "xxe"] name <;> decide

theorem words_lettered : ∀ f ∈ Family.all, ∀ word ∈ f.wordsBefore ++ f.wordsOf,
    Lettered word.toList := by
  decide

/-- Each known name but one has a word of its own family and none that is looked for before. -/
theorem knownNames_words : ∀ known ∈ Registry.builtIn.knownNames, known.1 ≠ "lfi" →
    ∃ f ∈ Family.all, f.key = known.2 ∧ hasAny f.wordsOf known.1 = true ∧
      hasAny f.wordsBefore known.1 = false := by
  decide

/-- A word in the name of a category stands in the known name or in what follows it. -/
theorem hasAny_extends (words : List String) (lettered : ∀ word ∈ words, Lettered word.toList)
    {r : Registry} {category stem target : String} {rest : List Char}
    (reaches : r.Extends category stem target rest) :
    hasAny words (Text.lower category) = true ↔
      hasAny words stem = true ∨ hasAny words (String.ofList rest) = true := by
  have parts : ∀ word ∈ words, word.toList <:+: (Text.lower category).toList ↔
      word.toList <:+: stem.toList ∨ word.toList <:+: rest := by
    intro word listed
    obtain ⟨filled, small⟩ := lettered word listed
    have apart : '-' ∉ word.toList := fun inside => absurd (small '-' inside).1 (by decide)
    rw [← Text.infix_lower_trim_iff ⟨filled, small⟩]
    change word.toList <:+: (Registry.normalized category).toList ↔ _
    rw [reaches.split]
    rcases reaches.dashed with rfl | ⟨behind, rfl⟩
    · simp [filled]
    · rw [infix_separated filled apart, infix_cons_of_apart filled apart]
  simp only [hasAny_iff, String.toList_ofList]
  constructor
  · rintro ⟨word, listed, inside⟩
    rcases (parts word listed).mp inside with left | right
    · exact Or.inl ⟨word, listed, left⟩
    · exact Or.inr ⟨word, listed, right⟩
  · rintro (⟨word, listed, left⟩ | ⟨word, listed, right⟩)
    · exact ⟨word, listed, (parts word listed).mpr (Or.inl left)⟩
    · exact ⟨word, listed, (parts word listed).mpr (Or.inr right)⟩

/-- For a category that more than the default rules fit: its name is a known one with nothing or a
dash and something behind it, and unless the known name is `lfi`, the quick check takes it for the
family of its rule set exactly if no word of an earlier family stands in what follows. -/
theorem family_agrees_iff : ∀ category found,
    Registry.builtIn.resolve category = some found → found.via ≠ .fallback →
    (∃ stem rest, Registry.builtIn.Extends category stem found.ruleSet.category rest) ∧
    ∀ stem rest, Registry.builtIn.Extends category stem found.ruleSet.category rest → stem ≠ "lfi" →
      ∃ f : Family, f.key = found.ruleSet.category ∧
        (Family.ofCategory category = some f ↔
          hasAny f.wordsBefore (String.ofList rest) = false) := by
  intro category found resolved fits
  refine ⟨Registry.resolve_extends resolved fits, ?_⟩
  intro stem rest reaches unlike
  obtain ⟨f, listed, key, own, earlier⟩ := knownNames_words _ reaches.known unlike
  refine ⟨f, key, ?_⟩
  have lettered := words_lettered f listed
  have before := hasAny_extends f.wordsBefore
    (fun word h => lettered word (List.mem_append_left _ h)) reaches
  have within := hasAny_extends f.wordsOf
    (fun word h => lettered word (List.mem_append_right _ h)) reaches
  rw [ofCategory_iff, within.mpr (Or.inl own), ← Bool.not_eq_true, before, earlier]
  simp

theorem family_agrees_cross_site : ∃ found,
    Registry.builtIn.resolve " Cross-Site-Scripting-path " = some found ∧
      found.ruleSet.category = Family.xss.key ∧
      Family.ofCategory " Cross-Site-Scripting-path " = some .xss := by
  have resolved : (Registry.builtIn.resolve " Cross-Site-Scripting-path ").map
      (fun found => (found.ruleSet.category, found.via)) = some ("xss", .stem) := by
    decide
  obtain ⟨found, resolved, same⟩ := Option.map_eq_some_iff.mp resolved
  obtain ⟨category, via⟩ := Prod.mk.inj same
  refine ⟨found, resolved, category, ?_⟩
  have reaches : Registry.builtIn.Extends " Cross-Site-Scripting-path " "cross-site-scripting"
      found.ruleSet.category ['-', 'p', 'a', 't', 'h'] :=
    ⟨by rw [category]; decide, by decide, Or.inr ⟨_, rfl⟩⟩
  obtain ⟨f, key, agrees⟩ :=
    (family_agrees_iff _ found resolved (by rw [via]; decide)).2 _ _ reaches (by decide)
  rw [category] at key
  cases f with
  | xss => exact agrees.mpr (by decide)
  | sqlInjection => exact absurd key (by decide)
  | auth => exact absurd key (by decide)
  | pathTraversal => exact absurd key (by decide)

/-- A word of an earlier family behind the dash misleads the quick check. -/
theorem family_misled :
    (Registry.builtIn.resolve "xss-injection").map (fun found => (found.ruleSet.category, found.via)) =
        some (Family.xss.key, .stem) ∧
      Family.ofCategory "xss-injection" = some .sqlInjection := by
  decide

end FixGrader.QuickCheck
