import FixGrader.Text.Case
/-!
# Letter case and ASCII

Two characters from outside of ASCII differ only in case from some inside of it: the long s and the
Kelvin sign. Characters of ASCII that are no letters differ from every other one in more than case.
In lower case two characters from outside of ASCII have a letter inside of it: the Kelvin sign, and
the dotted capital i, which becomes an i with a mark behind it.
-/
namespace FixGrader.Text

def Alike (c k : Char) : Prop := c = k ∨ k ∈ caseVariants c

instance (c k : Char) : Decidable (Alike c k) :=
  inferInstanceAs (Decidable (c = k ∨ k ∈ caseVariants c))

theorem foldGroups_ascii : ∀ group ∈ foldGroups, ∀ n ∈ group, 128 ≤ n → ∀ m ∈ group, m < 128 →
    isAsciiLetter (Char.ofNat m) = true ∧ (n = 0x212a ∨ n = 0x17f) := by
  decide

theorem foldRuns_ascii : ∀ run ∈ foldRuns, 0 ≤ run.2.2.2 ∧
    (128 ≤ run.1 ∨ ((run.1 + (run.2.1 - 1) * run.2.2.1 : Nat) : Int) + run.2.2.2 < 128) := by
  decide +kernel

/-- No run goes from inside of ASCII to its outside, nor back. -/
theorem mapByRun_ascii {run : Nat × Nat × Nat × Int} (listed : run ∈ foldRuns) {n m : Nat}
    (mapped : mapByRun n run = some m) : n < 128 ↔ m < 128 := by
  obtain ⟨first, count, step, distance⟩ := run
  obtain ⟨forward, apart⟩ := foldRuns_ascii _ listed
  simp only [mapByRun, Option.ite_none_right_eq_some, Option.some.injEq] at mapped forward apart
  obtain ⟨⟨low, high, -⟩, rfl⟩ := mapped
  omega

theorem foldVariants_ascii {n m : Nat} (outside : 128 ≤ n) (ascii : m < 128)
    (variant : m ∈ foldVariants n) :
    isAsciiLetter (Char.ofNat m) = true ∧ (n = 0x212a ∨ n = 0x17f) := by
  unfold foldVariants at variant
  split at variant
  · rename_i group found
    have holds : n ∈ group := by simpa using List.find?_some found
    exact foldGroups_ascii group (List.mem_of_find?_eq_some found) n holds outside m
      (List.mem_filter.mp variant).1 ascii
  · split at variant
    · rename_i found
      obtain ⟨run, listed, mapped⟩ := List.exists_of_findSome?_eq_some found
      obtain rfl := List.mem_singleton.mp variant
      exact absurd ((mapByRun_ascii listed mapped).mpr ascii) (Nat.not_lt_of_le outside)
    · obtain ⟨run, listed, mapped⟩ :=
        List.exists_of_findSome?_eq_some (Option.mem_toList.mp variant)
      simp only [Option.ite_none_right_eq_some, Option.some.injEq] at mapped
      obtain ⟨mapped, rfl⟩ := mapped
      exact absurd ((mapByRun_ascii listed mapped).mp ascii) (Nat.not_lt_of_le outside)

theorem toNat_of_ofNat {m : Nat} {d : Char} (filled : d ≠ '\x00') (same : Char.ofNat m = d) :
    m = d.toNat := by
  by_cases valid : m.isValidChar
  · rw [Char.ofNat, dif_pos valid] at same
    rw [← same]
    rfl
  · rw [Char.ofNat, dif_neg valid] at same
    exact absurd same.symm filled

theorem caseVariants_letters : ∀ n < 128, (caseVariants (Char.ofNat n)).all (fun d =>
    !isAscii d || isAsciiLetter d && isAsciiLetter (Char.ofNat n)) = true := by
  decide +kernel

/-- Only letters of ASCII have a counterpart, and only two characters outside of ASCII have it in
ASCII. -/
theorem letters_of_mem_caseVariants {c d : Char} (variant : d ∈ caseVariants c)
    (ascii : isAscii d = true) (filled : d ≠ '\x00') :
    isAsciiLetter d = true ∧ (isAsciiLetter c = true ∨ c = '\u212a' ∨ c = '\u017f') := by
  by_cases inside : isAscii c = true
  · have small : c.toNat < 128 := of_decide_eq_true inside
    rw [← Char.ofNat_toNat c] at variant
    have letters := List.all_eq_true.mp (caseVariants_letters c.toNat small) d variant
    rw [ascii, Char.ofNat_toNat, Bool.not_true, Bool.false_or, Bool.and_eq_true] at letters
    exact ⟨letters.1, Or.inl letters.2⟩
  · rw [caseVariants, if_neg inside] at variant
    obtain ⟨m, variant, same⟩ := List.mem_map.mp variant
    obtain rfl := toNat_of_ofNat filled same
    have outside : 128 ≤ c.toNat := Nat.le_of_not_lt fun small => inside (decide_eq_true small)
    obtain ⟨letter, far⟩ := foldVariants_ascii outside (of_decide_eq_true ascii) variant
    rw [Char.ofNat_toNat] at letter
    exact ⟨letter, Or.inr (far.imp (fun number => Char.toNat_inj.mp number)
      (fun number => Char.toNat_inj.mp number))⟩

def Caseless (k : Char) : Prop := isAscii k = true ∧ isAsciiLetter k = false ∧ k ≠ '\x00'

instance (k : Char) : Decidable (Caseless k) :=
  inferInstanceAs (Decidable (isAscii k = true ∧ isAsciiLetter k = false ∧ k ≠ '\x00'))

theorem Caseless.not_mem_caseVariants {k : Char} (caseless : Caseless k) (c : Char) :
    k ∉ caseVariants c := by
  obtain ⟨ascii, other, filled⟩ := caseless
  intro variant
  rw [(letters_of_mem_caseVariants variant ascii filled).1] at other
  cases other

theorem Caseless.alike_iff {c k : Char} (caseless : Caseless k) : Alike c k ↔ c = k :=
  or_iff_left (caseless.not_mem_caseVariants c)

theorem isAscii_of_le {c last : Char} (high : c ≤ last) (small : last.toNat < 128) :
    isAscii c = true :=
  decide_eq_true (Nat.lt_of_le_of_lt high small)

theorem letter_of_alike {c k : Char} (alike : Alike c k) (letter : isAsciiLetter k = true) :
    isAsciiLetter c = true ∨ c = '\u212a' ∨ c = '\u017f' := by
  have ascii : isAscii k = true := by
    simp only [isAsciiLetter, Bool.or_eq_true, Bool.and_eq_true, decide_eq_true_eq] at letter
    rcases letter with ⟨-, high⟩ | ⟨-, high⟩
    · exact isAscii_of_le high (by decide)
    · exact isAscii_of_le high (by decide)
  have filled : k ≠ '\x00' := by
    rintro rfl
    exact absurd letter (by decide)
  rcases alike with rfl | variant
  · exact Or.inl letter
  · exact (letters_of_mem_caseVariants variant ascii filled).2

theorem lowerRuns_ascii : ∀ run ∈ lowerRuns, run.1 + (run.2.1 - 1) * run.2.2.1 < 128 ∨
    run.1 = 0x212a ∧ run.2.1 = 1 ∨ 128 ≤ (run.1 : Int) + run.2.2.2 := by
  decide +kernel

theorem lowerRun_outside {run : Nat × Nat × Nat × Int} (listed : run ∈ lowerRuns) {n m : Nat}
    (mapped : mapByRun n run = some m) (outside : 128 ≤ n) : n = 0x212a ∨ 128 ≤ m := by
  obtain ⟨first, count, step, distance⟩ := run
  have placed := lowerRuns_ascii _ listed
  simp only [mapByRun, Option.ite_none_right_eq_some, Option.some.injEq] at mapped placed
  obtain ⟨⟨low, high, -⟩, rfl⟩ := mapped
  rcases placed with inside | ⟨kelvin, rfl⟩ | far
  · omega
  · left
    omega
  · right
    omega

/-- Only two characters outside of ASCII have one of ASCII in their lower case. -/
theorem outside_of_mem_lowerChar {c d : Char} (lower : d ∈ lowerChar c) (outside : ¬ isAscii c = true)
    (ascii : isAscii d = true) (filled : d ≠ '\x00') : c = 'İ' ∨ c = '\u212a' := by
  by_cases dotted : c = 'İ'
  · exact Or.inl dotted
  · rw [lowerChar, if_neg outside, if_neg (by simpa using dotted)] at lower
    split at lower
    · rename_i n found
      obtain ⟨run, listed, mapped⟩ := List.exists_of_findSome?_eq_some found
      obtain rfl : n = d.toNat := toNat_of_ofNat filled (List.mem_singleton.mp lower).symm
      have beyond : 128 ≤ c.toNat := Nat.le_of_not_lt fun small => outside (decide_eq_true small)
      have small : d.toNat < 128 := of_decide_eq_true ascii
      rcases lowerRun_outside listed mapped beyond with kelvin | far
      · exact Or.inr (Char.toNat_inj.mp kelvin)
      · exact absurd small (Nat.not_lt_of_le far)
    · rw [List.mem_singleton.mp lower] at ascii
      exact absurd ascii outside

end FixGrader.Text
