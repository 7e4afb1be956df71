import Mathlib.Tactic
import FixGrader.Number.Double
/-!
# Magnitudes of rounded numbers

Rounding to a double does not bring a quotient below a power of two that it had reached. Products and
differences are roundings of exact ones, so that a bound on the exact value is a bound on theirs.
-/
namespace FixGrader

namespace Double

/-- A double of the given sign whose magnitude is not below a bound; an infinity is above all
bounds. -/
def Beyond (negative : Bool) (bound : ℚ) (d : Double) : Prop :=
  d = .infinite negative ∨ ∃ m e, d = .finite negative m e ∧ bound ≤ m * (2 : ℚ) ^ e

theorem two_zpow_pos (e : Int) : (0 : ℚ) < (2 : ℚ) ^ e := zpow_pos (by norm_num) e

theorem scaleBy_den_pos (num : Nat) {den : Nat} (hd : 0 < den) (e : Int) :
    0 < (scaleBy num den e).2 := by
  unfold scaleBy
  split
  · positivity
  · exact hd

theorem scaleBy_ratio (num den : Nat) (e : Int) :
    ((scaleBy num den e).1 : ℚ) / (scaleBy num den e).2 = num / den / (2 : ℚ) ^ e := by
  by_cases he : 0 ≤ e
  · obtain ⟨k, rfl⟩ := Int.eq_ofNat_of_zero_le he
    simp [scaleBy, div_div]
  · obtain ⟨k, hk⟩ := Int.eq_ofNat_of_zero_le (show 0 ≤ -e by omega)
    obtain rfl : e = -(k : Int) := by omega
    simp only [scaleBy, he, if_false, neg_neg, Int.toNat_natCast, zpow_neg, zpow_natCast]
    push_cast
    rw [div_inv_eq_mul]
    ring

theorem two_pow_log2_le {n : Nat} (hn : 0 < n) : (2 : ℚ) ^ (n.log2 : Int) ≤ n := by
  rw [zpow_natCast]
  exact_mod_cast Nat.log2_self_le hn.ne'

theorem lt_two_pow_log2 (n : Nat) : (n : ℚ) < (2 : ℚ) ^ ((n.log2 : Int) + 1) := by
  have h : (n : ℚ) < (2 : ℚ) ^ (n.log2 + 1) := by exact_mod_cast Nat.lt_log2_self
  exact_mod_cast h

/-- `floorLog` is the binary logarithm, rounded down. -/
theorem floorLog_bounds {num den : Nat} (hn : 0 < num) (hd : 0 < den) :
    (2 : ℚ) ^ floorLog num den ≤ num / den ∧ (num / den : ℚ) < (2 : ℚ) ^ (floorLog num den + 1) := by
  have hden : (0 : ℚ) < den := by exact_mod_cast hd
  have two : (2 : ℚ) ≠ 0 := by norm_num
  let guess : Int := (num.log2 : Int) - den.log2
  have hratio := scaleBy_ratio num den guess
  have hpos : (0 : ℚ) < (scaleBy num den guess).2 := by exact_mod_cast scaleBy_den_pos num hd guess
  by_cases hlt : (scaleBy num den guess).1 < (scaleBy num den guess).2
  · have hlog : floorLog num den = guess - 1 := if_pos hlt
    have below : (num / den : ℚ) / (2 : ℚ) ^ guess < 1 := by
      rw [← hratio, div_lt_one hpos]
      exact_mod_cast hlt
    rw [hlog]
    constructor
    · rw [le_div_iff₀ hden]
      calc (2 : ℚ) ^ (guess - 1) * den
          ≤ (2 : ℚ) ^ (guess - 1) * (2 : ℚ) ^ ((den.log2 : Int) + 1) :=
            mul_le_mul_of_nonneg_left (lt_two_pow_log2 den).le (two_zpow_pos _).le
        _ = (2 : ℚ) ^ (num.log2 : Int) := by rw [← zpow_add₀ two]; congr 1; simp only [guess]; ring
        _ ≤ num := two_pow_log2_le hn
    · rw [sub_add_cancel]
      exact (div_lt_one (two_zpow_pos _)).mp below
  · have hlog : floorLog num den = guess := if_neg hlt
    have above : 1 ≤ (num / den : ℚ) / (2 : ℚ) ^ guess := by
      rw [← hratio, one_le_div hpos]
      exact_mod_cast Nat.not_lt.mp hlt
    rw [hlog]
    constructor
    · exact (one_le_div (two_zpow_pos _)).mp above
    · rw [div_lt_iff₀ hden]
      calc (num : ℚ) < (2 : ℚ) ^ ((num.log2 : Int) + 1) := lt_two_pow_log2 num
        _ = (2 : ℚ) ^ (guess + 1) * (2 : ℚ) ^ (den.log2 : Int) := by
            rw [← zpow_add₀ two]; congr 1; simp only [guess]; ring
        _ ≤ (2 : ℚ) ^ (guess + 1) * den :=
            mul_le_mul_of_nonneg_left (Nat.cast_pos.mp hden |> two_pow_log2_le) (two_zpow_pos _).le

theorem le_roundQuotient (n d : Nat) : n / d ≤ roundQuotient n d := by
  unfold roundQuotient
  dsimp only
  split <;> omega

theorem ne_zero_of_zpow_le {k : Int} {x y : ℚ} (h : (2 : ℚ) ^ k ≤ x * y) : x ≠ 0 := by
  rintro rfl
  rw [zero_mul] at h
  exact absurd h (not_le.mpr (two_zpow_pos k))

/-- A quotient that reaches a whole number of units of some scale does so when it is scaled. -/
theorem le_scaled_quotient {num den c : Nat} {e : Int} (hd : 0 < den)
    (h : (c : ℚ) * (2 : ℚ) ^ e ≤ num / den) :
    c ≤ (scaleBy num den e).1 / (scaleBy num den e).2 := by
  have hdpos := scaleBy_den_pos num hd e
  have hdq : (0 : ℚ) < (scaleBy num den e).2 := by exact_mod_cast hdpos
  have hq : (c : ℚ) ≤ (scaleBy num den e).1 / (scaleBy num den e).2 := by
    rwa [scaleBy_ratio, le_div_iff₀ (two_zpow_pos e)]
  rw [le_div_iff₀ hdq] at hq
  rw [Nat.le_div_iff_mul_le hdpos]
  exact_mod_cast hq

/-- Rounding does not fall below a power of two, unless it is among the smallest ones. -/
theorem ofRatio_beyond (s : Bool) {num den : Nat} {k : Int} (hk : -1022 ≤ k) (hd : 0 < den)
    (h : (2 : ℚ) ^ k ≤ num / den) : Beyond s ((2 : ℚ) ^ k) (ofRatio s num den) := by
  have hn : 0 < num := by
    rw [div_eq_mul_inv] at h
    exact Nat.pos_of_ne_zero (Nat.cast_ne_zero.mp (ne_zero_of_zpow_le h))
  obtain ⟨hlow, hhigh⟩ := floorLog_bounds hn hd
  have hlog : k ≤ floorLog num den := by
    have := (zpow_lt_zpow_iff_right₀ (by norm_num : (1 : ℚ) < 2)).mp (h.trans_lt hhigh)
    omega
  have he : max (floorLog num den - 52) minExponent = floorLog num den - 52 := by
    unfold minExponent
    omega
  let e := floorLog num den - 52
  have hunits : ((2 ^ 52 : Nat) : ℚ) * (2 : ℚ) ^ e = (2 : ℚ) ^ floorLog num den := by
    rw [Nat.cast_pow, Nat.cast_two, ← zpow_natCast, ← zpow_add₀ (by norm_num : (2 : ℚ) ≠ 0)]
    congr 1
    simp only [e]
    ring
  have hround := (le_scaled_quotient hd (hunits.trans_le hlow)).trans (le_roundQuotient _ _)
  have hscale : (2 : ℚ) ^ k ≤ ((2 ^ 52 : Nat) : ℚ) * (2 : ℚ) ^ e := by
    rw [hunits]
    exact zpow_le_zpow_right₀ (by norm_num) hlog
  unfold ofRatio
  rw [if_neg hn.ne', he]
  dsimp only
  split
  · split
    · exact Or.inl rfl
    · refine Or.inr ⟨_, _, rfl, hscale.trans ?_⟩
      refine mul_le_mul_of_nonneg_left ?_ (by positivity)
      exact zpow_le_zpow_right₀ (by norm_num) (by simp only [e]; omega)
  · split
    · exact Or.inl rfl
    · refine Or.inr ⟨_, _, rfl, hscale.trans ?_⟩
      refine mul_le_mul_of_nonneg_right ?_ (two_zpow_pos _).le
      exact_mod_cast hround

theorem ofNat_beyond {n j : Nat} (h : 2 ^ j ≤ n) : Beyond false ((2 : ℚ) ^ j) (ofNat n) := by
  rw [← zpow_natCast]
  refine ofRatio_beyond false (by omega) Nat.one_pos ?_
  rw [Nat.cast_one, div_one, zpow_natCast]
  exact_mod_cast h

theorem ofScaledInt_beyond (zeroNegative : Bool) {m e k : Int} (hk : -1022 ≤ k)
    (h : (2 : ℚ) ^ k ≤ |(m : ℚ)| * (2 : ℚ) ^ e) :
    Beyond (decide (m < 0)) ((2 : ℚ) ^ k) (ofScaledInt zeroNegative m e) := by
  have hm : m ≠ 0 := by
    have := abs_ne_zero.mp (ne_zero_of_zpow_le h)
    exact_mod_cast this
  rw [ofScaledInt, if_neg hm]
  rw [← Int.cast_abs, Int.abs_eq_natAbs, Int.cast_natCast] at h
  split
  · rename_i he
    obtain ⟨j, rfl⟩ := Int.eq_ofNat_of_zero_le he
    refine ofRatio_beyond _ hk Nat.one_pos ?_
    simpa using h
  · rename_i he
    obtain ⟨j, hj⟩ := Int.eq_ofNat_of_zero_le (show 0 ≤ -e by omega)
    obtain rfl : e = -(j : Int) := by omega
    refine ofRatio_beyond _ hk (by positivity) ?_
    simpa [div_eq_mul_inv] using h

theorem mul_beyond {m : Nat} {e k : Int} {b : ℚ} {d : Double} (hk : -1022 ≤ k)
    (hd : Beyond false b d) (h : (2 : ℚ) ^ k ≤ m * (2 : ℚ) ^ e * b) :
    Beyond false ((2 : ℚ) ^ k) ((Double.finite false m e).mul d) := by
  have hm : m ≠ 0 := by
    rw [mul_assoc] at h
    exact Nat.cast_ne_zero.mp (ne_zero_of_zpow_le h)
  rcases hd with rfl | ⟨n, f, rfl, hb⟩
  · exact Or.inl (by simp [mul, hm])
  have hscale : (2 : ℚ) ^ k ≤ ((m * n : Nat) : ℚ) * (2 : ℚ) ^ (e + f) := by
    refine h.trans ?_
    rw [zpow_add₀ (by norm_num : (2 : ℚ) ≠ 0), Nat.cast_mul]
    calc (m : ℚ) * (2 : ℚ) ^ e * b ≤ m * (2 : ℚ) ^ e * (n * (2 : ℚ) ^ f) :=
          mul_le_mul_of_nonneg_left hb (by positivity)
      _ = m * n * ((2 : ℚ) ^ e * (2 : ℚ) ^ f) := by ring
  have hmn : m * n ≠ 0 := Nat.cast_ne_zero.mp (ne_zero_of_zpow_le hscale)
  have hnonneg : ¬ ((m * n : Nat) : Int) < 0 := by omega
  have hbeyond := ofScaledInt_beyond (m := ((m * n : Nat) : Int)) (e := e + f) false hk
    (by rw [Int.cast_natCast, abs_of_nonneg (Nat.cast_nonneg _)]; exact hscale)
  rw [decide_eq_false hnonneg] at hbeyond
  simpa only [mul, if_neg hmn, bne_self_eq_false, Bool.false_eq_true, if_false] using hbeyond

theorem alignedTo_value {base e : Int} (s : Bool) (m : Nat) (h : base ≤ e) :
    (alignedTo base s m e : ℚ) * (2 : ℚ) ^ base = (if s then -1 else 1) * (m * (2 : ℚ) ^ e) := by
  obtain ⟨j, hj⟩ := Int.eq_ofNat_of_zero_le (show 0 ≤ e - base by omega)
  obtain rfl : e = base + j := by omega
  have hpow : (2 : ℚ) ^ (base + j : Int) = (2 : ℚ) ^ base * 2 ^ j := by
    rw [zpow_add₀ (by norm_num : (2 : ℚ) ≠ 0), zpow_natCast]
  cases s <;> simp [alignedTo, hpow] <;> ring

/-- A difference that is negative by one or more stays so when it is rounded. -/
theorem sub_beyond {m : Nat} {e : Int} {b : ℚ} {d : Double} (hd : Beyond false b d)
    (h : m * (2 : ℚ) ^ e + 1 ≤ b) : Beyond true 1 ((Double.finite false m e).sub d) := by
  rcases hd with rfl | ⟨n, f, rfl, hb⟩
  · exact Or.inl rfl
  let base := min e f
  let sum := alignedTo base false m e + alignedTo base true n f
  have hsum : (sum : ℚ) * (2 : ℚ) ^ base = m * (2 : ℚ) ^ e - n * (2 : ℚ) ^ f := by
    simp only [sum]
    rw [Int.cast_add, add_mul, alignedTo_value false m (min_le_left e f),
      alignedTo_value true n (min_le_right e f)]
    simp
    ring
  have hle : (sum : ℚ) * (2 : ℚ) ^ base ≤ -1 := by rw [hsum]; linarith
  have hneg : (sum : ℚ) < 0 := by
    by_contra h0
    have := mul_nonneg (not_lt.mp h0) (two_zpow_pos base).le
    linarith
  have hnegInt : sum < 0 := by exact_mod_cast hneg
  have hbeyond := ofScaledInt_beyond (false && true) (k := 0) (m := sum) (e := base) (by omega)
    (by rw [zpow_zero, abs_of_neg hneg]; linarith)
  rw [decide_eq_true hnegInt, zpow_zero] at hbeyond
  exact hbeyond

theorem larger_zero_of_beyond {d : Double} (h : Beyond true 1 d) : d.larger zero = zero := by
  rcases h with rfl | ⟨m, e, rfl, hm⟩
  · rfl
  have hpos : 0 < m := by
    by_contra h0
    obtain rfl : m = 0 := by omega
    simp at hm
    linarith
  have hless : (Double.finite true m e).less zero = true := by
    simp [less, zero, signedZero, alignedTo, hpos]
  simp [larger, isNaN, hless]

end Double

end FixGrader
