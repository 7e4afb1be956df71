import Mathlib.Data.List.Forall2
import FixGrader.Proofs.Regex.Language
import FixGrader.Proofs.Text.Folding
/-!
# The parts of an idiom

What the pieces that idioms are written with can match: characters and words without regard to
case, runs of characters of one set, and one such piece after another.
-/
namespace FixGrader.Regex
open Text (Alike Caseless)

namespace CharSet
variable {a : CharSet} {c k : Char}

theorem contains_single : (single k).contains c = true ↔ c = k := by
  simp only [single, contains, Bool.and_eq_true, decide_eq_true_eq]
  constructor
  · exact fun ⟨low, high⟩ => Char.le_antisymm high low
  · rintro rfl
    exact ⟨Char.le_refl c, Char.le_refl c⟩

theorem contains_compl : (compl a).contains c = true ↔ ¬ a.contains c = true := by
  rw [contains, Bool.not_eq_true', Bool.not_eq_true]

theorem contains_anyCase : (anyCase a).contains c = true ↔
    a.contains c = true ∨ ∃ d ∈ Text.caseVariants c, a.contains d = true := by
  rw [contains, Bool.or_eq_true, List.any_eq_true]

theorem contains_anyCase_single : (anyCase (single k)).contains c = true ↔ Alike c k := by
  simp only [contains_anyCase, contains_single, Alike, exists_eq_right]

/-- Case is nothing to a set of characters that have no counterpart. -/
theorem contains_anyCase_of_caseless (caseless : ∀ d, a.contains d = true → Caseless d) :
    (anyCase a).contains c = true ↔ a.contains c = true := by
  rw [contains_anyCase, or_iff_left_iff_imp]
  rintro ⟨d, variant, listed⟩
  exact absurd variant ((caseless d listed).not_mem_caseVariants c)

def listed (cs : List Char) : CharSet := cs.foldl (fun set k => union set (single k)) none

theorem contains_listed {cs : List Char} : (listed cs).contains c = true ↔ c ∈ cs := by
  have further (set : CharSet) :
      (cs.foldl (fun set k => union set (single k)) set).contains c = true ↔
        set.contains c = true ∨ c ∈ cs := by
    induction cs generalizing set with
    | nil => simp
    | cons k ks ih =>
      rw [List.foldl_cons, ih, contains, Bool.or_eq_true, contains_single, List.mem_cons, or_assoc]
  rw [listed, further, contains]
  simp

theorem contains_anyCase_listed {cs : List Char}
    (caseless : cs.all (fun k => decide (Caseless k)) = true) :
    (anyCase (listed cs)).contains c = true ↔ c ∈ cs := by
  have each (d : Char) (fits : (listed cs).contains d = true) : Caseless d :=
    of_decide_eq_true (List.all_eq_true.mp caseless d (contains_listed.mp fits))
  rw [contains_anyCase_of_caseless each, contains_listed]

end CharSet

namespace Node
variable {before taken after : List Char}

theorem takes_char {set : CharSet} :
    (char set).Takes before taken after ↔ ∃ c, taken = [c] ∧ set.contains c = true := Iff.rfl

theorem takes_ofList_cons {n : Node} {ns : List Node} :
    (ofList (n :: ns)).Takes before taken after ↔
      n.Takes.followedBy (ofList ns).Takes before taken after := by
  cases ns with
  | cons m ms => rfl
  | nil =>
    constructor
    · exact fun takes => ⟨taken, [], (List.append_nil taken).symm, takes, rfl⟩
    · rintro ⟨first, second, rfl, takes, rfl⟩
      rwa [List.append_nil]

theorem takes_assert {condition : Assertion} {ns : List Node} :
    (ofList (assert condition :: ns)).Takes before taken after ↔
      condition.holds before.getLast? (taken ++ after).head? = true ∧
        (ofList ns).Takes before taken after := by
  rw [takes_ofList_cons]
  constructor
  · rintro ⟨_, second, rfl, ⟨rfl, holds⟩, takes⟩
    rw [List.append_nil] at takes
    exact ⟨holds, takes⟩
  · rintro ⟨holds, takes⟩
    exact ⟨[], taken, rfl, ⟨rfl, holds⟩, by rwa [List.append_nil]⟩

theorem takes_one {set : CharSet} {ns : List Node} :
    (ofList (char set :: ns)).Takes before taken after ↔
      ∃ c more, taken = c :: more ∧ set.contains c = true ∧
        (ofList ns).Takes (before ++ [c]) more after := by
  rw [takes_ofList_cons]
  constructor
  · rintro ⟨first, more, rfl, ⟨c, rfl, fits⟩, takes⟩
    exact ⟨c, more, rfl, fits, takes⟩
  · rintro ⟨c, more, rfl, fits, takes⟩
    exact ⟨[c], more, rfl, ⟨c, rfl, fits⟩, takes⟩

theorem takes_many {set : CharSet} {greedy : Bool} :
    (Node.loop (char set) 0 none greedy).Takes before taken after ↔
      ∀ c ∈ taken, set.contains c = true := by
  constructor
  · rintro ⟨count, -, takes⟩
    induction count generalizing before taken with
    | zero =>
      obtain rfl : taken = [] := takes
      simp
    | succ count ih =>
      obtain ⟨first, second, rfl, ⟨c, rfl, fits⟩, more⟩ := takes
      intro d listed
      rcases List.mem_cons.mp listed with rfl | listed
      · exact fits
      · exact ih more d listed
  · intro fits
    refine ⟨taken.length, ⟨Nat.zero_le _, fun _ bounded => nomatch bounded⟩, ?_⟩
    induction taken generalizing before with
    | nil => rfl
    | cons c cs ih =>
      exact ⟨[c], cs, rfl, ⟨c, rfl, fits c List.mem_cons_self⟩,
        ih fun d listed => fits d (List.mem_cons_of_mem _ listed)⟩

/-- Any number of characters of a set, before other pieces. -/
theorem takes_run {set : CharSet} {greedy : Bool} {ns : List Node} :
    (ofList (.loop (char set) 0 none greedy :: ns)).Takes before taken after ↔
      ∃ run more, taken = run ++ more ∧ (∀ c ∈ run, set.contains c = true) ∧
        (ofList ns).Takes (before ++ run) more after := by
  simp only [takes_ofList_cons, Language.followedBy, takes_many]

theorem takes_once_or_never {set : CharSet} {greedy : Bool} :
    (Node.loop (char set) 0 (some 1) greedy).Takes before taken after ↔
      taken = [] ∨ ∃ c, taken = [c] ∧ set.contains c = true := by
  constructor
  · rintro ⟨count, ⟨-, bounded⟩, takes⟩
    have few : count ≤ 1 := bounded 1 rfl
    match count, few, takes with
    | 0, _, takes => exact Or.inl takes
    | 1, _, takes =>
      obtain ⟨first, second, rfl, ⟨c, rfl, fits⟩, rfl⟩ := takes
      exact Or.inr ⟨c, rfl, fits⟩
  · rintro (rfl | ⟨c, rfl, fits⟩)
    · exact ⟨0, ⟨Nat.le_refl 0, fun _ _ => Nat.zero_le _⟩, rfl⟩
    · exact ⟨1, ⟨Nat.zero_le 1, fun bound given => Option.mem_some.mp given ▸ Nat.le_refl 1⟩,
        [c], [], rfl, ⟨c, rfl, fits⟩, rfl⟩

/-- A character of a set or none, before other pieces. -/
theorem takes_optional {set : CharSet} {greedy : Bool} {ns : List Node} :
    (ofList (.loop (char set) 0 (some 1) greedy :: ns)).Takes before taken after ↔
      ∃ first more, taken = first ++ more ∧
        (first = [] ∨ ∃ c, first = [c] ∧ set.contains c = true) ∧
        (ofList ns).Takes (before ++ first) more after := by
  simp only [takes_ofList_cons, Language.followedBy, takes_once_or_never]

/-- A word as it is written, before other pieces. -/
theorem takes_word {word : List Char} {ns : List Node} :
    (ofList (word.map (fun k => char (.single k)) ++ ns)).Takes before taken after ↔
      ∃ more, taken = word ++ more ∧ (ofList ns).Takes (before ++ word) more after := by
  induction word generalizing before taken with
  | nil => simp
  | cons k ks ih =>
    have assoc : before ++ [k] ++ ks = before ++ k :: ks := by simp
    rw [List.map_cons, List.cons_append, takes_one]
    constructor
    · rintro ⟨c, rest, rfl, fits, further⟩
      obtain rfl := CharSet.contains_single.mp fits
      obtain ⟨more, rfl, takes⟩ := ih.mp further
      exact ⟨more, rfl, assoc ▸ takes⟩
    · rintro ⟨more, rfl, takes⟩
      refine ⟨k, ks ++ more, rfl, CharSet.contains_single.mpr rfl, ih.mpr ⟨more, rfl, ?_⟩⟩
      rw [assoc]
      exact takes

def inAnyCase (c : Char) : Node := char (.anyCase (.single c))

/-- A word in any case. -/
def spelled (word : String) : Node := ofList (word.toList.map inAnyCase)

theorem takes_inAnyCase {k : Char} :
    (inAnyCase k).Takes before taken after ↔ ∃ c, taken = [c] ∧ Alike c k := by
  simp only [inAnyCase, takes_char, CharSet.contains_anyCase_single]

theorem takes_spelled {word : String} :
    (spelled word).Takes before taken after ↔ List.Forall₂ Alike taken word.toList := by
  rw [spelled]
  induction word.toList generalizing before taken with
  | nil => exact List.forall₂_nil_right_iff.symm
  | cons k ks ih =>
    rw [List.map_cons, takes_ofList_cons, List.forall₂_cons_right_iff]
    constructor
    · rintro ⟨first, second, rfl, takes, more⟩
      obtain ⟨c, rfl, alike⟩ := takes_inAnyCase.mp takes
      exact ⟨c, second, alike, ih.mp more, rfl⟩
    · rintro ⟨c, second, alike, more, rfl⟩
      exact ⟨[c], second, rfl, takes_inAnyCase.mpr ⟨c, rfl, alike⟩, ih.mpr more⟩

end Node

end FixGrader.Regex
