import FixGrader.Proofs.Json.Decimal
import FixGrader.Proofs.Number.Shortest
/-!
# Doubles that are printed and read

The text of a double is always read as some number, also where it is not the same one. Its decimal is
within reach unless the double is among the very largest ones, of which there are few enough to look
at each.
-/
namespace FixGrader.Json.Document
open Double

/-- A double with a smaller exponent than the largest ones has a decimal within reach. -/
theorem reach_of_smaller {m : Nat} {e : Int} (short : m < 2 ^ (53 : Nat)) (smaller : e ≤ 970) :
    decimalValue (shortest m e) ≤ reach := by
  have room : 2 ^ (55 : Nat) * 2 ^ (968 : Nat) ≤ 1797693134862315 * 10 ^ (293 : Nat) := by
    decide +kernel
  have significand : ((4 * m + 2 : Nat) : ℚ) ≤ (2 ^ (55 : Nat) : Nat) := by
    exact_mod_cast (by omega : 4 * m + 2 ≤ 2 ^ (55 : Nat))
  calc decimalValue (shortest m e) ≤ (4 * m + 2 : Nat) * (2 : ℚ) ^ (e - 2) := shortest_le m e
    _ ≤ (2 ^ (55 : Nat) : Nat) * (2 : ℚ) ^ ((968 : Nat) : Int) :=
        mul_le_mul significand (zpow_le_zpow_right₀ (by norm_num) (by omega)) (two_zpow_pos _).le
          (Nat.cast_nonneg _)
    _ = ((2 ^ (55 : Nat) * 2 ^ (968 : Nat) : Nat) : ℚ) := (cast_mul_pow (2 ^ (55 : Nat)) 2 968).symm
    _ ≤ reach := by
        rw [reach_eq]
        exact Nat.cast_le.mpr room

theorem shortest_greatest : shortest (2 ^ (53 : Nat) - 1) 971 = ⟨17976931348623157, 292⟩ := by
  decide +kernel

/-- The largest doubles but for the greatest one have decimals below this one. -/
theorem shortest_top_lt {m j : Nat} (short : m < 2 ^ (53 : Nat) - 1)
    (exponent : (shortest m 971).exponent = 292 + j) :
    (shortest m 971).digits * 10 ^ j < 17976931348623157 := by
  have bound := shortest_top_le exponent
  have room : (2 ^ (55 : Nat) - 6) * 2 ^ (969 : Nat) < 17976931348623157 * 10 ^ (292 : Nat) := by
    decide +kernel
  have significand := Nat.mul_le_mul_right (2 ^ (969 : Nat))
    (by omega : 4 * m + 2 ≤ 2 ^ (55 : Nat) - 6)
  exact lt_of_mul_lt_mul_right ((bound.trans significand).trans_lt room) (Nat.zero_le _)

/-- Zeros at the end of the digits stand for places of the exponent. -/
theorem ten_shift (c j : Nat) (k : Int) :
    ((c * 10 ^ j : Nat) : ℚ) * (10 : ℚ) ^ k = c * (10 : ℚ) ^ (k + j) := by
  rw [zpow_add₀ (by norm_num : (10 : ℚ) ≠ 0), zpow_natCast, Nat.cast_mul, Nat.cast_pow, mul_assoc,
    mul_comm (10 ^ k), Nat.cast_ofNat]

theorem decimalValue_top {d : Decimal} {j : Nat} (exponent : d.exponent = 292 + j)
    (small : d.digits * 10 ^ j ≤ 1797693134862315 * 10 ^ 1) : decimalValue d ≤ reach :=
  calc decimalValue d = (d.digits * 10 ^ j : Nat) * (10 : ℚ) ^ (292 : Int) := by
        rw [ten_shift, decimalValue, exponent]
    _ ≤ (1797693134862315 * 10 ^ 1 : Nat) * (10 : ℚ) ^ (292 : Int) :=
        mul_le_mul_of_nonneg_right (Nat.cast_le.mpr small) (zpow_nonneg (by norm_num) _)
    _ = reach := ten_shift 1797693134862315 1 292

/-- The decimals of doubles that are not within reach are a few next to each other. -/
theorem shortest_cases {m : Nat} {e : Int} (hm : 0 < m) (short : m < 2 ^ (53 : Nat))
    (high : e ≤ maxExponent) : decimalValue (shortest m e) ≤ reach ∨
      ∃ i < 7, shortest m e = ⟨17976931348623151 + i, 292⟩ := by
  rcases lt_or_eq_of_le high with smaller | rfl
  · exact Or.inl (reach_of_smaller short (Int.le_of_lt_add_one smaller))
  rcases eq_or_ne m (2 ^ (53 : Nat) - 1) with rfl | other
  · exact Or.inr ⟨6, by decide, shortest_greatest⟩
  obtain ⟨j, exponent⟩ := Int.le.dest (shortest_top hm short)
  have below := shortest_top_lt (by omega) exponent.symm
  rcases Nat.lt_or_ge 17976931348623150 ((shortest m 971).digits * 10 ^ j) with large | small
  · have single : j = 0 := by
      rcases j with _ | j
      · rfl
      · rw [Nat.pow_succ, ← Nat.mul_assoc] at large below
        omega
    rw [single, Nat.pow_zero, Nat.mul_one] at large below
    rw [single] at exponent
    refine Or.inr ⟨(shortest m 971).digits - 17976931348623151, by omega, ?_⟩
    change shortest m 971 = _
    generalize shortest m 971 = d at large below exponent ⊢
    obtain ⟨digits, k⟩ := d
    dsimp only at large below exponent ⊢
    rw [← exponent, Nat.add_sub_of_le large]
    rfl
  · exact Or.inl (decimalValue_top exponent.symm small)

/-- Decimals just out of reach that are shortest decimals of doubles are read as well. -/
theorem readNumber_top : ∀ i < 7, ∀ negative,
    ((readNumber? negative (Decimal.text ⟨17976931348623151 + i, 292⟩).toList).map
      fun read => (read.1.isSome, read.2)) = some (true, []) := by
  decide +kernel

theorem readNumber_shortest (negative : Bool) {m : Nat} {e : Int} (hm : 0 < m)
    (short : m < 2 ^ (53 : Nat)) (low : minExponent ≤ e) (high : e ≤ maxExponent) :
    ∃ n, readNumber? negative (shortest m e).text.toList = some (some n, []) := by
  obtain within | ⟨i, few, same⟩ := shortest_cases hm short high
  · exact readNumber_decimal negative (shortest_pos hm short low high) within
  · have read := readNumber_top i few negative
    rw [← same] at read
    obtain ⟨⟨number, rest⟩, found, both⟩ := Option.map_eq_some_iff.mp read
    rw [Prod.mk.injEq] at both
    obtain ⟨there, rfl⟩ := both
    obtain ⟨n, rfl⟩ := Option.isSome_iff_exists.mp there
    exact ⟨n, found⟩

/-- The text of a double is always read as a number. -/
theorem readsAs_of_proper {d : Double} (proper : d.Proper) : ∃ n, ReadsAs (.real d) n := by
  obtain ⟨negative, m, e, rfl, short, low, high⟩ := proper
  rcases Nat.eq_zero_or_pos m with rfl | hm
  · cases negative
    · exact ⟨_, false, ['0', '.', '0'], by simp [Number.text, Double.text], rfl⟩
    · exact ⟨_, true, ['0', '.', '0'], by simp [Number.text, Double.text], rfl⟩
  · obtain ⟨n, read⟩ := readNumber_shortest negative hm short low high
    refine ⟨n, negative, (shortest m e).text.toList, ?_, read⟩
    rw [Number.text, Double.text, if_neg hm.ne']
    cases negative <;> simp

end FixGrader.Json.Document
