import Mathlib.Data.Finset.Max
import Mathlib.Data.List.Perm.Basic
import FixGrader.Proofs.Rules.Extension
/-!
# Settings laid over the built-in rules

Custom rule sets go into the place of the one of their category, or behind all others, and the last
one of a category counts; further names replace the built-in ones of the same name. Settings are
refused exactly if a pattern does not compile or a further name stands for a category that nobody
defines. Which rule set a category finds depends only on what can be looked up, so the order of
custom rule sets of different categories does not matter.
-/
namespace FixGrader

namespace NameTable
variable {α : Type}

theorem mem_put_iff {name : String} {value : α} {entries : List (String × α)}
    (ascending : entries.Pairwise (fun a b => a.1 < b.1)) {e : String × α} :
    e ∈ put name value entries ↔ e = (name, value) ∨ (e ∈ entries ∧ e.1 ≠ name) := by
  induction entries with
  | nil => simp [put]
  | cons entry rest ih =>
    obtain ⟨first, rest_ascending⟩ := List.pairwise_cons.mp ascending
    have above : ∀ {e : String × α}, name ≤ entry.1 → e ∈ rest → e.1 ≠ name :=
      fun le listed same => String.not_lt.mpr le (same ▸ first _ listed)
    rw [put]
    split
    · rename_i below
      have unlike : ∀ e ∈ entry :: rest, e.1 ≠ name := by
        intro e listed
        rcases List.mem_cons.mp listed with rfl | later
        · exact (String.ne_of_lt below).symm
        · exact above (String.not_lt.mp (String.lt_asymm below)) later
      rw [List.mem_cons]
      exact or_congr_right ⟨fun listed => ⟨listed, unlike e listed⟩, And.left⟩
    · split
      · rename_i beyond
        rw [List.mem_cons, ih rest_ascending, List.mem_cons]
        constructor
        · rintro (rfl | rfl | ⟨later, unlike⟩)
          · exact Or.inr ⟨Or.inl rfl, String.ne_of_lt beyond⟩
          · exact Or.inl rfl
          · exact Or.inr ⟨Or.inr later, unlike⟩
        · rintro (rfl | ⟨rfl | later, unlike⟩)
          · exact Or.inr (Or.inl rfl)
          · exact Or.inl rfl
          · exact Or.inr (Or.inr ⟨later, unlike⟩)
      · rename_i not_below not_beyond
        have same : entry.1 = name :=
          String.le_antisymm (String.not_lt.mp not_below) (String.not_lt.mp not_beyond)
        rw [List.mem_cons, List.mem_cons]
        constructor
        · rintro (rfl | later)
          · exact Or.inl rfl
          · exact Or.inr ⟨Or.inr later, above (String.not_lt.mp not_beyond) later⟩
        · rintro (rfl | ⟨rfl | later, unlike⟩)
          · exact Or.inl rfl
          · exact absurd same unlike
          · exact Or.inr later

theorem get?_insert (t : NameTable α) (name : String) (value : α) (n : String) :
    (t.insert name value).get? n = if n = name then some value else t.get? n := by
  ext v
  rw [get?_eq_some_iff, insert, mem_put_iff t.ascending]
  split
  · rename_i same
    simp [same, eq_comm]
  · rename_i unlike
    simp [unlike, get?_eq_some_iff]

/-- A table laid over another one: its own entries count first. -/
theorem get?_foldl_insert {upper t : NameTable α} (n : String) :
    (upper.entries.foldl (fun t e => t.insert e.1 e.2) t).get? n =
      (upper.get? n).or (t.get? n) := by
  obtain ⟨entries, ascending⟩ := upper
  induction entries generalizing t with
  | nil => rfl
  | cons entry rest ih =>
    obtain ⟨first, rest_ascending⟩ := List.pairwise_cons.mp ascending
    rw [List.foldl_cons, ih rest_ascending, get?_insert]
    by_cases same : n = entry.1
    · have absent : (⟨rest, rest_ascending⟩ : NameTable α).get? n = none := by
        rw [Option.eq_none_iff_forall_ne_some]
        intro value there
        exact String.ne_of_lt (first _ (get?_eq_some_iff.mp there)) same.symm
      rw [absent, if_pos same]
      simp [get?, same]
    · rw [if_neg same]
      simp [get?, Ne.symm same]

end NameTable

namespace Registry

def laid (sets held : List RuleSet) : List RuleSet :=
  sets.foldl (fun held s => putRuleSet s held) held

def categories (sets : List RuleSet) : List String := sets.map (·.category)

theorem find?_putRuleSet (s : RuleSet) (held : List RuleSet) (category : String) :
    (putRuleSet s held).find? (·.category = category) =
      if s.category = category then some s else held.find? (·.category = category) := by
  induction held with
  | nil => simp [putRuleSet, List.find?_cons]; split <;> simp_all
  | cons first rest ih =>
    rw [putRuleSet]
    split
    · rename_i same
      simp only [List.find?_cons, same]
      split <;> simp_all
    · rename_i unlike
      rw [List.find?_cons, List.find?_cons, ih]
      split <;> split <;> simp_all

/-- What is found is the last rule set of the category that was put in, or else what was there. -/
theorem find?_laid (sets held : List RuleSet) (category : String) :
    (laid sets held).find? (·.category = category) =
      ((sets.filter (·.category = category)).getLast?).or
        (held.find? (·.category = category)) := by
  induction sets generalizing held with
  | nil => rfl
  | cons s sets ih =>
    have next : laid (s :: sets) held = laid sets (putRuleSet s held) := rfl
    rw [next, ih, find?_putRuleSet, List.filter_cons]
    split
    · rename_i same
      rw [if_pos (decide_eq_true same), List.getLast?_cons]
      cases (sets.filter (·.category = category)).getLast? <;> rfl
    · rename_i unlike
      rw [if_neg (by simpa using unlike)]

theorem categories_putRuleSet (s : RuleSet) (held : List RuleSet) :
    categories (putRuleSet s held) =
      if s.category ∈ categories held then categories held
      else categories held ++ [s.category] := by
  induction held with
  | nil => rfl
  | cons first rest ih =>
    rw [putRuleSet]
    unfold categories at ih ⊢
    split
    · rename_i same
      simp [same]
    · rename_i unlike
      rw [List.map_cons, List.map_cons, ih]
      simp only [List.mem_cons, Ne.symm unlike, false_or]
      split <;> rfl

/-- The categories stay in their places; new ones come behind them, each where it comes first. -/
theorem categories_laid (sets held : List RuleSet) :
    categories (laid sets held) =
      categories held ++ ((categories sets).filter (· ∉ categories held)).eraseDups := by
  induction sets generalizing held with
  | nil => simp [laid, categories]
  | cons s sets ih =>
    have next : laid (s :: sets) held = laid sets (putRuleSet s held) := rfl
    have first : categories (s :: sets) = s.category :: categories sets := rfl
    rw [next, ih, categories_putRuleSet, first]
    split
    · rename_i known
      rw [List.filter_cons_of_neg (by simpa using known)]
    · rename_i new
      have behind : (categories sets).filter (· ∉ categories held ++ [s.category]) =
          ((categories sets).filter (· ∉ categories held)).filter (fun c => !c == s.category) := by
        rw [List.filter_filter]
        refine List.filter_congr fun c _ => ?_
        rw [Bool.eq_iff_iff]
        simp [and_comm]
      rw [List.filter_cons_of_pos (by simpa using new), List.eraseDups_cons, behind,
        List.append_assoc]
      rfl

/-- Rule sets as they are written in settings, each with what it compiles to. -/
abbrev Compiled (custom : List CustomRuleSet) (sets : List RuleSet) : Prop :=
  List.Forall₂ (fun c s => RuleSet.ofCustom c = .ok s) custom sets

theorem addCustom_eq_ok_iff {r r' : Registry} {custom : CustomRuleSet} :
    r.addCustom custom = .ok r' ↔ ∃ s, RuleSet.ofCustom custom = .ok s ∧
      { r with ruleSets := putRuleSet s r.ruleSets } = r' := by
  unfold addCustom
  cases RuleSet.ofCustom custom with
  | error e => simp [bind, Except.bind]
  | ok s => simp [bind, Except.bind, pure, Except.pure]

theorem foldlM_cons_ok {α σ ε : Type} {f : σ → α → Except ε σ} {a : α} {l : List α} {s s' : σ} :
    (a :: l).foldlM f s = .ok s' ↔ ∃ s₁, f s a = .ok s₁ ∧ l.foldlM f s₁ = .ok s' := by
  rw [List.foldlM_cons]
  cases f s a with
  | error e => simp [bind, Except.bind]
  | ok s₁ => simp [bind, Except.bind]

theorem foldlM_addCustom {r r' : Registry} {custom : List CustomRuleSet} :
    custom.foldlM addCustom r = .ok r' ↔
      ∃ sets, Compiled custom sets ∧ { r with ruleSets := laid sets r.ruleSets } = r' := by
  induction custom generalizing r with
  | nil => simp [Compiled, laid, pure, Except.pure]
  | cons c custom ih =>
    rw [foldlM_cons_ok]
    constructor
    · rintro ⟨r₁, added, rest⟩
      obtain ⟨s, compiled, rfl⟩ := addCustom_eq_ok_iff.mp added
      obtain ⟨sets, all, rfl⟩ := ih.mp rest
      exact ⟨s :: sets, .cons compiled all, rfl⟩
    · rintro ⟨sets, all, rfl⟩
      obtain ⟨s, sets, compiled, rest, rfl⟩ := List.forall₂_cons_left_iff.mp all
      exact ⟨_, addCustom_eq_ok_iff.mpr ⟨s, compiled, rfl⟩, ih.mpr ⟨sets, rest, rfl⟩⟩

theorem lookup_isSome_iff {r : Registry} {category : String} :
    (r.lookup category).isSome ↔ category ∈ categories r.ruleSets := by
  rw [lookup, List.find?_isSome, categories, List.mem_map]
  simp only [decide_eq_true_eq]

theorem addAlias_eq_ok_iff {r r' : Registry} {e : String × String} :
    r.addAlias e = .ok r' ↔ e.2 ∈ categories r.ruleSets ∧
      { r with aliases := r.aliases.insert e.1 e.2 } = r' := by
  rw [← lookup_isSome_iff]
  unfold addAlias
  split
  · rename_i known
    simp [known]
  · rename_i unknown
    simp [unknown]

theorem foldlM_addAlias {r r' : Registry} {entries : List (String × String)} :
    entries.foldlM addAlias r = .ok r' ↔
      (∀ e ∈ entries, e.2 ∈ categories r.ruleSets) ∧
        { r with aliases := entries.foldl (fun t e => t.insert e.1 e.2) r.aliases } = r' := by
  induction entries generalizing r with
  | nil => simp [pure, Except.pure]
  | cons e entries ih =>
    rw [foldlM_cons_ok, List.forall_mem_cons]
    constructor
    · rintro ⟨r₁, added, rest⟩
      obtain ⟨known, rfl⟩ := addAlias_eq_ok_iff.mp added
      obtain ⟨targeted, rfl⟩ := ih.mp rest
      exact ⟨⟨known, targeted⟩, rfl⟩
    · rintro ⟨⟨known, targeted⟩, rfl⟩
      exact ⟨_, addAlias_eq_ok_iff.mpr ⟨known, rfl⟩, ih.mpr ⟨targeted, rfl⟩⟩

/-- The built-in registry with rule sets and further names laid over it. -/
def overlay (sets : List RuleSet) (aliases : NameTable String) : Registry where
  ruleSets := laid sets builtIn.ruleSets
  aliases := aliases.entries.foldl (fun t e => t.insert e.1 e.2) builtIn.aliases
  defaultCategory := builtIn.defaultCategory

theorem lookup_overlay (sets : List RuleSet) (aliases : NameTable String) (category : String) :
    (overlay sets aliases).lookup category =
      ((sets.filter (·.category = category)).getLast?).or (builtIn.lookup category) :=
  find?_laid sets builtIn.ruleSets category

/-- Accepted settings: the rule sets compile, and what is a further name stands for one of them or
for a built-in one. -/
theorem withSettings_eq_ok_iff {settings : RuleSettings} {r : Registry} :
    withSettings settings = .ok r ↔ ∃ sets, Compiled settings.custom sets ∧
      (∀ e ∈ settings.aliases.entries, e.2 ∈ categories (laid sets builtIn.ruleSets)) ∧
        overlay sets settings.aliases = r := by
  have opened : withSettings settings = .ok r ↔ ∃ r₁,
      settings.custom.foldlM addCustom builtIn = .ok r₁ ∧
        settings.aliases.entries.foldlM addAlias r₁ = .ok r := by
    unfold withSettings
    cases settings.custom.foldlM addCustom builtIn <;> simp [bind, Except.bind]
  rw [opened]
  constructor
  · rintro ⟨r₁, customized, named⟩
    obtain ⟨sets, compiled, rfl⟩ := foldlM_addCustom.mp customized
    obtain ⟨targeted, rfl⟩ := foldlM_addAlias.mp named
    exact ⟨sets, compiled, targeted, rfl⟩
  · rintro ⟨sets, compiled, targeted, rfl⟩
    exact ⟨_, foldlM_addCustom.mpr ⟨sets, compiled, rfl⟩, foldlM_addAlias.mpr ⟨targeted, rfl⟩⟩

theorem mapM_eq_ok_iff {α β ε : Type} {f : α → Except ε β} {l : List α} {l' : List β} :
    l.mapM f = .ok l' ↔ List.Forall₂ (fun a b => f a = .ok b) l l' := by
  induction l generalizing l' with
  | nil => simp [pure, Except.pure, eq_comm]
  | cons a l ih =>
    rw [List.mapM_cons, List.forall₂_cons_left_iff]
    simp only [← ih]
    cases f a with
    | error e => simp [bind, Except.bind]
    | ok b => cases l.mapM f <;> simp [bind, Except.bind, pure, Except.pure, eq_comm]

theorem exists_forall₂_iff {α β : Type} {R : α → β → Prop} {l : List α} :
    (∃ l', List.Forall₂ R l l') ↔ ∀ a ∈ l, ∃ b, R a b := by
  induction l with
  | nil => simp
  | cons a l ih =>
    rw [List.forall_mem_cons, ← ih]
    constructor
    · rintro ⟨l', all⟩
      obtain ⟨b, rest, first, all, -⟩ := List.forall₂_cons_left_iff.mp all
      exact ⟨⟨b, first⟩, rest, all⟩
    · rintro ⟨⟨b, first⟩, rest, all⟩
      exact ⟨b :: rest, .cons first all⟩

theorem forall₂_getLast? {α β : Type} {R : α → β → Prop} {l : List α} {l' : List β}
    (all : List.Forall₂ R l l') {a : α} (last : l.getLast? = some a) :
    ∃ b, R a b ∧ l'.getLast? = some b := by
  induction all with
  | nil => cases last
  | cons first rest ih =>
    rw [List.getLast?_cons] at last ⊢
    rename_i a₁ b₁ l l'
    cases behind : l.getLast? with
    | none =>
      have none_left : l = [] := List.getLast?_eq_none_iff.mp behind
      subst none_left
      cases rest
      cases last
      exact ⟨b₁, first, rfl⟩
    | some a₂ =>
      rw [behind] at last
      obtain ⟨b, related, last'⟩ := ih (behind.trans last)
      exact ⟨b, related, by rw [last']; rfl⟩

/-- A custom rule set is compiled pattern by pattern, and keeps its category. -/
theorem ofCustom_eq_ok_iff {c : CustomRuleSet} {s : RuleSet} :
    RuleSet.ofCustom c = .ok s ↔ ∃ vulnerable secure,
      List.Forall₂ (fun source p => Pattern.ofSource c.category source = .ok p)
        c.vulnerable vulnerable ∧
      List.Forall₂ (fun source p => Pattern.ofSource c.category source = .ok p)
        c.secure secure ∧
      s = ⟨c.category, c.displayName.getD c.category, c.recommendation, vulnerable, secure⟩ := by
  simp only [← mapM_eq_ok_iff]
  unfold RuleSet.ofCustom
  cases c.vulnerable.mapM (Pattern.ofSource c.category) with
  | error e => simp [bind, Except.bind]
  | ok v =>
    cases c.secure.mapM (Pattern.ofSource c.category) with
    | error e => simp [bind, Except.bind]
    | ok w => simp [bind, Except.bind, pure, Except.pure, eq_comm]

theorem ofSource_exists_iff (category : String) {source : String} :
    (∃ p, Pattern.ofSource category source = .ok p) ↔
      ∃ regex, Regex.compile source = .ok regex := by
  unfold Pattern.ofSource
  cases Regex.compile source <;> simp

theorem ofCustom_exists_iff {c : CustomRuleSet} :
    (∃ s, RuleSet.ofCustom c = .ok s) ↔
      ∀ source ∈ c.vulnerable ++ c.secure, ∃ regex, Regex.compile source = .ok regex := by
  simp only [List.forall_mem_append, ← ofSource_exists_iff c.category,
    ← exists_forall₂_iff]
  constructor
  · rintro ⟨s, compiled⟩
    obtain ⟨vulnerable, secure, all, all', -⟩ := ofCustom_eq_ok_iff.mp compiled
    exact ⟨⟨vulnerable, all⟩, secure, all'⟩
  · rintro ⟨⟨vulnerable, all⟩, secure, all'⟩
    exact ⟨_, ofCustom_eq_ok_iff.mpr ⟨vulnerable, secure, all, all', rfl⟩⟩

theorem ofCustom_category {c : CustomRuleSet} {s : RuleSet} (h : RuleSet.ofCustom c = .ok s) :
    s.category = c.category := by
  obtain ⟨vulnerable, secure, -, -, rfl⟩ := ofCustom_eq_ok_iff.mp h
  rfl

theorem Compiled.categories {custom : List CustomRuleSet} {sets : List RuleSet}
    (compiled : Compiled custom sets) : categories sets = custom.map (·.category) := by
  induction compiled with
  | nil => rfl
  | cons same _ ih =>
    rw [List.map_cons, ← ofCustom_category same, ← ih]
    rfl

theorem Compiled.ofCategory {custom : List CustomRuleSet} {sets : List RuleSet}
    (compiled : Compiled custom sets) (category : String) :
    Compiled (custom.filter (·.category = category)) (sets.filter (·.category = category)) := by
  induction compiled with
  | nil => exact .nil
  | cons same _ ih =>
    rw [List.filter_cons, List.filter_cons, ofCustom_category same]
    split
    · exact .cons same ih
    · exact ih

section Lookup
variable {r r' : Registry}

/-- Of the stems of a name one is at least as long as every other. -/
theorem exists_utmost {name : String}
    (stemmed : ∃ known ∈ r.knownNames, hasStem name known.1 = true) :
    ∃ known ∈ r.knownNames, hasStem name known.1 = true ∧
      ∀ other ∈ r.knownNames, hasStem name other.1 = true → other.1.length ≤ known.1.length := by
  obtain ⟨known, listed, extended⟩ := stemmed
  obtain ⟨utmost, listed', greatest⟩ := Finset.exists_max_image
    (r.knownNames.filter fun known => hasStem name known.1).toFinset (·.1.length)
    ⟨known, List.mem_toFinset.mpr (List.mem_filter.mpr ⟨listed, extended⟩)⟩
  obtain ⟨known', extended'⟩ := List.mem_filter.mp (List.mem_toFinset.mp listed')
  exact ⟨utmost, known', extended', fun other there extends' =>
    greatest other (List.mem_toFinset.mpr (List.mem_filter.mpr ⟨there, extends'⟩))⟩

theorem lookupStem_none {name : String}
    (stemless : ¬ ∃ known ∈ r.knownNames, hasStem name known.1 = true) :
    r.lookupStem name = none := by
  have nothing : r.knownNames.filter (fun known => hasStem name known.1) = [] :=
    List.filter_eq_nil_iff.mpr fun known listed extended => stemless ⟨known, listed, extended⟩
  rw [lookupStem, nothing]
  rfl

/-- Registries in which the same is found. -/
structure Agrees (r r' : Registry) : Prop where
  lookups : ∀ category, r.lookup category = r'.lookup category
  aliases : ∀ name, r.aliases.get? name = r'.aliases.get? name
  default : r.defaultCategory = r'.defaultCategory

theorem Agrees.symm (agrees : Agrees r r') : Agrees r' r :=
  ⟨fun category => (agrees.lookups category).symm, fun name => (agrees.aliases name).symm,
    agrees.default.symm⟩

theorem Agrees.known (agrees : Agrees r r') {name target : String}
    (known : (name, target) ∈ r.knownNames) : (name, target) ∈ r'.knownNames := by
  rw [mem_knownNames_iff] at known ⊢
  rwa [← agrees.lookups, ← agrees.aliases]

theorem Agrees.lookupStem (agrees : Agrees r r') (name : String) :
    r.lookupStem name = r'.lookupStem name := by
  by_cases stemmed : ∃ known ∈ r.knownNames, hasStem name known.1 = true
  · obtain ⟨⟨stem, target⟩, known, extended, utmost⟩ := exists_utmost stemmed
    rw [lookupStem_eq known extended utmost, lookupStem_eq (agrees.known known) extended
      (fun other listed => utmost other (agrees.symm.known listed)), agrees.aliases,
      agrees.lookups]
  · rw [lookupStem_none stemmed, lookupStem_none]
    rintro ⟨known, listed, extended⟩
    exact stemmed ⟨known, agrees.symm.known listed, extended⟩

/-- What can be looked up decides how a category is resolved. -/
theorem Agrees.resolve (agrees : Agrees r r') (defaulted : (r.lookup r.defaultCategory).isSome)
    (category : String) : r.resolve category = r'.resolve category := by
  obtain ⟨s, standard⟩ := Option.isSome_iff_exists.mp defaulted
  have standard' : r'.lookup r'.defaultCategory = some s := by
    rw [← agrees.lookups, ← agrees.default, standard]
  have same_lookups : r.lookup = r'.lookup := funext agrees.lookups
  rw [resolve_eq, resolve_eq, standard, standard', agrees.aliases, agrees.lookupStem, same_lookups]
  rfl

end Lookup

theorem mem_categories_laid {sets held : List RuleSet} {category : String} :
    category ∈ categories (laid sets held) ↔
      category ∈ categories held ∨ category ∈ categories sets := by
  rw [categories_laid, List.mem_append, List.mem_eraseDups, List.mem_filter]
  by_cases known : category ∈ categories held <;> simp [known]

/-- Where no two rule sets have one category, the last one of a category is any one of it. -/
theorem getLast?_ofCategory {sets : List RuleSet} (apart : (categories sets).Nodup)
    {category : String} {s : RuleSet} :
    (sets.filter (·.category = category)).getLast? = some s ↔ s ∈ sets ∧ s.category = category := by
  have of_listed : s ∈ sets.filter (·.category = category) ↔ s ∈ sets ∧ s.category = category := by
    rw [List.mem_filter, decide_eq_true_eq]
  constructor
  · exact fun last => of_listed.mp (List.mem_of_getLast? last)
  · intro listed
    refine getLast?_eq_some (of_listed.mpr listed) fun t there => ?_
    obtain ⟨listed', named⟩ := List.mem_filter.mp there
    exact List.inj_on_of_nodup_map apart listed' listed.1
      ((of_decide_eq_true named).trans listed.2.symm)

/-- Rule sets of different categories can be put in in any order. -/
theorem find?_laid_perm {sets sets' : List RuleSet} (permuted : sets'.Perm sets)
    (apart : (categories sets).Nodup) (held : List RuleSet) (category : String) :
    (laid sets' held).find? (·.category = category) =
      (laid sets held).find? (·.category = category) := by
  have apart' : (categories sets').Nodup := (permuted.map _).nodup_iff.mpr apart
  have same : (sets'.filter (·.category = category)).getLast? =
      (sets.filter (·.category = category)).getLast? := by
    ext s
    rw [getLast?_ofCategory apart', getLast?_ofCategory apart, permuted.mem_iff]
  rw [find?_laid, find?_laid, same]

end Registry

/-- Settings whose patterns compile, and whose further names stand for categories that are built in
or custom. -/
structure RuleSettings.Usable (settings : RuleSettings) : Prop where
  compiled : ∀ custom ∈ settings.custom, ∀ source ∈ custom.vulnerable ++ custom.secure,
    ∃ regex, Regex.compile source = .ok regex
  targeted : ∀ name target, settings.aliases.get? name = some target →
    target ∈ Registry.categories Registry.builtIn.ruleSets ∨
      target ∈ settings.custom.map (·.category)

namespace Registry

/-- The built-in registry with settings laid over it. -/
structure Overlaid (settings : RuleSettings) (r : Registry) : Prop where
  distinct : (categories r.ruleSets).Nodup
  /-- The built-in categories come first, then the new ones in the order in which they come up. -/
  ordered : categories r.ruleSets = categories builtIn.ruleSets ++
    ((settings.custom.map (·.category)).filter (· ∉ categories builtIn.ruleSets)).eraseDups
  /-- The last custom rule set of a category is the one that counts. -/
  replaced : ∀ category custom,
    (settings.custom.filter (·.category = category)).getLast? = some custom →
      ∃ s, RuleSet.ofCustom custom = .ok s ∧ r.lookup category = some s
  kept : ∀ category, category ∉ settings.custom.map (·.category) →
    r.lookup category = builtIn.lookup category
  named : ∀ name, r.aliases.get? name = (settings.aliases.get? name).or (builtIn.aliases.get? name)
  grounded : ∀ name target, r.aliases.get? name = some target → target ∈ categories r.ruleSets
  standard : r.defaultCategory = builtIn.defaultCategory ∧
    r.defaultCategory ∈ categories r.ruleSets
  resolved : ∀ category, (r.resolve category).isSome
  /-- Custom rule sets of different categories can come in any order. -/
  orderless : ∀ custom, custom.Perm settings.custom → (settings.custom.map (·.category)).Nodup →
    ∃ r', withSettings { settings with custom } = .ok r' ∧
      ∀ category, r'.resolve category = r.resolve category

theorem usable_of_accepted {settings : RuleSettings} {r : Registry}
    (accepted : withSettings settings = .ok r) : settings.Usable := by
  obtain ⟨sets, compiled, targeted, -⟩ := withSettings_eq_ok_iff.mp accepted
  constructor
  · intro custom listed
    exact ofCustom_exists_iff.mp (exists_forall₂_iff.mp ⟨sets, compiled⟩ custom listed)
  · intro name target stands
    rw [← compiled.categories, ← mem_categories_laid]
    exact targeted _ (NameTable.get?_eq_some_iff.mp stands)

theorem accepted_of_usable {settings : RuleSettings} (usable : settings.Usable) :
    ∃ r, withSettings settings = .ok r := by
  obtain ⟨sets, compiled⟩ := exists_forall₂_iff.mpr fun custom listed =>
    ofCustom_exists_iff.mpr (usable.compiled custom listed)
  refine ⟨_, withSettings_eq_ok_iff.mpr ⟨sets, compiled, fun entry listed => ?_, rfl⟩⟩
  rw [mem_categories_laid, Compiled.categories compiled]
  exact usable.targeted _ _ (NameTable.get?_eq_some_iff.mpr listed)

/-- The order of custom rule sets of different categories decides nothing. -/
theorem resolve_permuted {settings : RuleSettings} {r : Registry}
    (accepted : withSettings settings = .ok r) (custom : List CustomRuleSet)
    (permuted : custom.Perm settings.custom) (apart : (settings.custom.map (·.category)).Nodup) :
    ∃ r', withSettings { settings with custom } = .ok r' ∧
      ∀ category, r'.resolve category = r.resolve category := by
  have defaulted := (consistent_of_accepted accepted).defaulted
  obtain ⟨sets, compiled, targeted, rfl⟩ := withSettings_eq_ok_iff.mp accepted
  obtain ⟨sets', compiled', permuted'⟩ := List.perm_comp_forall₂ permuted compiled
  have apart' : (categories sets).Nodup := by rwa [compiled.categories]
  have same_categories : ∀ category, category ∈ categories (laid sets builtIn.ruleSets) →
      category ∈ categories (laid sets' builtIn.ruleSets) := by
    intro category listed
    rw [mem_categories_laid] at listed ⊢
    exact listed.imp_right (permuted'.map _).mem_iff.mpr
  refine ⟨_, withSettings_eq_ok_iff.mpr
    ⟨sets', compiled', fun entry listed => same_categories _ (targeted entry listed), rfl⟩,
    fun category => ?_⟩
  refine (Agrees.resolve ?_ defaulted category).symm
  exact ⟨fun c => (find?_laid_perm permuted' apart' builtIn.ruleSets c).symm, fun _ => rfl, rfl⟩

theorem overlaid_of_accepted {settings : RuleSettings} {r : Registry}
    (accepted : withSettings settings = .ok r) : Overlaid settings r := by
  have consistent := consistent_of_accepted accepted
  have orderless := resolve_permuted accepted
  obtain ⟨sets, compiled, targeted, rfl⟩ := withSettings_eq_ok_iff.mp accepted
  constructor
  · exact List.pairwise_map.mpr consistent.distinct
  · rw [← compiled.categories]
    exact categories_laid sets builtIn.ruleSets
  · intro category custom last
    obtain ⟨s, compiles, last'⟩ := forall₂_getLast? (compiled.ofCategory category) last
    exact ⟨s, compiles, by rw [lookup_overlay, last']; rfl⟩
  · intro category absent
    have nothing : sets.filter (·.category = category) = [] := by
      rw [List.filter_eq_nil_iff]
      intro s listed same
      rw [← compiled.categories] at absent
      exact absent (List.mem_map.mpr ⟨s, listed, of_decide_eq_true same⟩)
    rw [lookup_overlay, nothing]
    rfl
  · exact fun name => NameTable.get?_foldl_insert name
  · intro name target stands
    exact lookup_isSome_iff.mp (consistent.grounded _ (NameTable.get?_eq_some_iff.mp stands))
  · exact ⟨rfl, lookup_isSome_iff.mp consistent.defaulted⟩
  · exact consistent.resolve_isSome
  · exact orderless

/-- Settings are accepted exactly if they are usable, and then give the built-in registry with the
settings laid over it. -/
theorem withSettings_overlays (settings : RuleSettings) :
    ((∃ r, withSettings settings = .ok r) ↔ settings.Usable) ∧
      ∀ r, withSettings settings = .ok r → Overlaid settings r :=
  ⟨⟨fun ⟨_, accepted⟩ => usable_of_accepted accepted, accepted_of_usable⟩,
    fun _ accepted => overlaid_of_accepted accepted⟩

/-- A new category given twice, a built-in one given anew, a built-in further name turned over. -/
def requestForgery : RuleSettings where
  aliases := .ofList [("sqli", "ssrf")]
  custom := [
    { category := "ssrf", vulnerable := ["fetch"] },
    { category := "xss", secure := ["escape"] },
    { category := "ssrf", vulnerable := ["axios"] }]

theorem withSettings_overlays_requestForgery : ∃ r, withSettings requestForgery = .ok r ∧
    categories r.ruleSets = ["sql-injection", "xss", "auth", "path-traversal", "ssrf"] ∧
      (r.lookup "ssrf").map (·.vulnerable.map (·.id)) = some ["axios"] ∧
        r.aliases.get? "sqli" = some "ssrf" := by
  have laid_over := withSettings_overlays requestForgery
  have usable : requestForgery.Usable := laid_over.1.mp ⟨_, rfl⟩
  obtain ⟨r, accepted⟩ := laid_over.1.mpr usable
  have overlaid := laid_over.2 r accepted
  refine ⟨r, accepted, overlaid.ordered.trans (by decide), ?_, (overlaid.named "sqli").trans rfl⟩
  obtain ⟨s, compiled, found⟩ := overlaid.replaced "ssrf" _ rfl
  obtain ⟨vulnerable, secure, each, -, rfl⟩ := ofCustom_eq_ok_iff.mp compiled
  obtain ⟨p, rest, source, none_left, rfl⟩ := List.forall₂_cons_left_iff.mp each
  cases none_left
  cases source
  rw [found]
  rfl

end Registry
end FixGrader
