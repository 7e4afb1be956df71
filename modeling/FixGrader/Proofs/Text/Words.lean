import FixGrader.Challenge.QuickCheck
/-!
# Words in a text

Where a word can stand in a text that is put together, and how lower case and the blanks at the ends
of a text bear on it. The lower case of a sigma hangs on its neighbours; for words without one this
makes no difference.
-/
namespace FixGrader

namespace QuickCheck

theorem occurs_iff (word : List Char) (text : List Char) :
    occurs word text = true ↔ word <:+: text := by
  induction text with
  | nil => rw [occurs, List.isEmpty_iff, List.infix_nil]
  | cons c cs ih => rw [occurs, Bool.or_eq_true, List.isPrefixOf_iff_prefix, ih, List.infix_cons_iff]

theorem hasAny_iff (words : List String) (text : String) :
    hasAny words text = true ↔ ∃ word ∈ words, word.toList <:+: text.toList := by
  simp only [hasAny, List.any_eq_true, occurs_iff]

/-- A word does not reach into a part that has none of its characters. -/
theorem infix_append_of_foreign {word before behind : List Char} (filled : word ≠ [])
    (foreign : ∀ c ∈ before, c ∉ word) : word <:+: before ++ behind ↔ word <:+: behind := by
  rw [List.infix_append_iff_ne_nil]
  constructor
  · rintro (⟨s, t, rfl⟩ | inside | ⟨l₁, l₂, filled₁, -, rfl, ⟨s, rfl⟩, -⟩)
    · obtain ⟨c, rest, rfl⟩ := List.exists_cons_of_ne_nil filled
      exact absurd List.mem_cons_self (foreign c (by simp))
    · exact inside
    · obtain ⟨c, rest, rfl⟩ := List.exists_cons_of_ne_nil filled₁
      exact absurd (by simp) (foreign c (by simp))
  · exact fun inside => Or.inr (Or.inl inside)

theorem infix_append_foreign {word before behind : List Char} (filled : word ≠ [])
    (foreign : ∀ c ∈ behind, c ∉ word) : word <:+: before ++ behind ↔ word <:+: before := by
  rw [← List.reverse_infix, List.reverse_append,
    infix_append_of_foreign (by simpa using filled) (by simpa using foreign), List.reverse_infix]

theorem infix_cons_of_apart {word behind : List Char} {separator : Char} (filled : word ≠ [])
    (apart : separator ∉ word) : word <:+: separator :: behind ↔ word <:+: behind := by
  rw [← List.singleton_append]
  exact infix_append_of_foreign filled (by simpa using apart)

/-- A word without the separator stands on one of its sides. -/
theorem infix_separated {word before behind : List Char} {separator : Char} (filled : word ≠ [])
    (apart : separator ∉ word) :
    word <:+: before ++ separator :: behind ↔ word <:+: before ∨ word <:+: behind := by
  rw [List.infix_append_iff_ne_nil, infix_cons_of_apart filled apart]
  constructor
  · rintro (left | right | ⟨l₁, l₂, -, filled₂, rfl, -, reaches⟩)
    · exact Or.inl left
    · exact Or.inr right
    · obtain ⟨c, rest, rfl⟩ := List.exists_cons_of_ne_nil filled₂
      obtain ⟨rfl, -⟩ := List.cons_prefix_cons.mp reaches
      exact absurd (by simp) apart
  · rintro (left | right)
    · exact Or.inl left
    · exact Or.inr (Or.inl right)

end QuickCheck

namespace Text

def plainSigma (c : Char) : Char := if c = 'ς' then 'σ' else c

/-- The lower case of a character wherever it stands. -/
def lowered (c : Char) : List Char := if c = 'Σ' then ['σ'] else (lowerChar c).map plainSigma

theorem lowerAfter_plainSigma (before cs : List Char) :
    (lowerAfter before cs).map plainSigma = cs.flatMap lowered := by
  induction cs generalizing before with
  | nil => rfl
  | cons c cs ih =>
    rw [lowerAfter, List.map_append, ih, List.flatMap_cons]
    congr 1
    unfold lowered
    by_cases sigma : c = 'Σ'
    · subst sigma
      simp only [beq_self_eq_true, if_true]
      split <;> rfl
    · simp only [beq_iff_eq, sigma, if_false]

def Lettered (word : List Char) : Prop := word ≠ [] ∧ ∀ c ∈ word, 'a' ≤ c ∧ c ≤ 'z'

instance (word : List Char) : Decidable (Lettered word) :=
  @instDecidableAnd _ _ _ (List.decidableBAll _ word)

theorem Lettered.of_plainSigma {l : List Char} (lettered : Lettered (l.map plainSigma)) :
    l.map plainSigma = l := by
  conv => rhs; rw [← List.map_id l]
  refine List.map_congr_left fun c listed => ?_
  have small := (lettered.2 (plainSigma c) (List.mem_map_of_mem listed)).2
  unfold plainSigma at small ⊢
  split at small
  · exact absurd small (by decide)
  · rename_i unlike
    rw [if_neg unlike, id]

theorem Lettered.plainSigma {word : List Char} (lettered : Lettered word) :
    word.map plainSigma = word := by
  conv => rhs; rw [← List.map_id word]
  refine List.map_congr_left fun c listed => ?_
  have small := (lettered.2 c listed).2
  rw [Text.plainSigma, if_neg, id]
  rintro rfl
  exact absurd small (by decide)

theorem infix_lower_iff {word : List Char} (lettered : Lettered word) (s : String) :
    word <:+: (lower s).toList ↔ word <:+: s.toList.flatMap lowered := by
  rw [lower, String.toList_ofList, ← lowerAfter_plainSigma [] s.toList, List.infix_map_iff]
  constructor
  · intro inside
    exact ⟨word, inside, lettered.plainSigma.symm⟩
  · rintro ⟨l, inside, rfl⟩
    rwa [lettered.of_plainSigma]

def blanks : List Nat := [
  9, 10, 11, 12, 13, 0x20, 0x85, 0xa0, 0x1680, 0x2000, 0x2001, 0x2002, 0x2003, 0x2004, 0x2005, 0x2006,
  0x2007, 0x2008, 0x2009, 0x200a, 0x2028, 0x2029, 0x202f, 0x205f, 0x3000]

theorem mem_blanks {c : Char} (blank : isBlank c = true) : c.toNat ∈ blanks := by
  simp only [isBlank, Bool.or_eq_true, Bool.and_eq_true, decide_eq_true_eq, beq_iff_eq] at blank
  simp only [blanks, List.mem_cons, List.not_mem_nil, or_false]
  omega

theorem lowered_blanks : ∀ n ∈ blanks,
    (lowered (Char.ofNat n)).all (fun c => c < 'a' || 'z' < c) = true := by
  decide

theorem lowered_blank {cs : List Char} (blank : ∀ c ∈ cs, isBlank c = true) {word : List Char}
    (lettered : Lettered word) : ∀ c ∈ cs.flatMap lowered, c ∉ word := by
  intro c listed inside
  obtain ⟨b, listed, lower⟩ := List.mem_flatMap.mp listed
  rw [← Char.ofNat_toNat b] at lower
  have outside := List.all_eq_true.mp (lowered_blanks b.toNat (mem_blanks (blank b listed))) c lower
  simp only [Bool.or_eq_true, decide_eq_true_eq] at outside
  obtain ⟨low, high⟩ := lettered.2 c inside
  rcases outside with below | above
  · exact Char.not_lt.mpr low below
  · exact Char.not_lt.mpr high above

theorem trim_split (s : String) : ∃ before behind, s.toList = before ++ (trim s).toList ++ behind ∧
    (∀ c ∈ before, isBlank c = true) ∧ ∀ c ∈ behind, isBlank c = true := by
  refine ⟨s.toList.takeWhile isBlank,
    ((s.toList.dropWhile isBlank).reverse.takeWhile isBlank).reverse, ?_, ?_, ?_⟩
  · rw [trim, String.toList_ofList, List.append_assoc, ← List.reverse_append,
      List.takeWhile_append_dropWhile, List.reverse_reverse, List.takeWhile_append_dropWhile]
  · intro c listed
    exact List.all_eq_true.mp List.all_takeWhile c listed
  · intro c listed
    exact List.all_eq_true.mp List.all_takeWhile c (List.mem_reverse.mp listed)

/-- Blanks at the ends of a text are nothing to the words in its lower case. -/
theorem infix_lower_trim_iff {word : List Char} (lettered : Lettered word) (s : String) :
    word <:+: (lower (trim s)).toList ↔ word <:+: (lower s).toList := by
  obtain ⟨before, behind, split, blank_before, blank_behind⟩ := trim_split s
  rw [infix_lower_iff lettered, infix_lower_iff lettered s, split, List.flatMap_append,
    List.flatMap_append,
    QuickCheck.infix_append_foreign lettered.1 (lowered_blank blank_behind lettered),
    QuickCheck.infix_append_of_foreign lettered.1 (lowered_blank blank_before lettered)]

end Text

end FixGrader
