import Mathlib.Algebra.Order.Floor.Semifield
import FixGrader.Proofs.Number.Magnitude
/-!
# Exact results

A number whose significand has at most 53 bits is a double as it stands, and rounding leaves it alone.
So a sum, a difference or a product is exact wherever the exact result is such a number; halves of
moderate integers always are.
-/
namespace FixGrader.Double

def value? : Double → Option ℚ
  | .finite s m e => some ((if s then -1 else 1) * (m * (2 : ℚ) ^ e))
  | _ => none

/-- Numbers that need no rounding. -/
def Representable (q : ℚ) : Prop :=
  ∃ (c : ℕ) (k : ℤ), c < 2 ^ 53 ∧ minExponent ≤ k ∧ k ≤ maxExponent ∧ |q| = c * (2 : ℚ) ^ k

theorem representable_int {i : ℤ} (small : |i| < 2 ^ 53) : Representable i := by
  refine ⟨i.natAbs, 0, ?_, by decide, by decide, ?_⟩
  · rw [Int.abs_eq_natAbs] at small
    omega
  · rw [zpow_zero, mul_one, Nat.cast_natAbs, Int.cast_abs]

theorem representable_half {n : ℕ} (small : n < 2 ^ 53) : Representable (n / 2 : ℚ) := by
  refine ⟨n, -1, small, by decide, by decide, ?_⟩
  rw [zpow_neg_one, abs_div, Nat.abs_cast, abs_two, div_eq_mul_inv]

theorem roundQuotient_exact (c : ℕ) {d : ℕ} (hd : 0 < d) : roundQuotient (c * d) d = c := by
  unfold roundQuotient
  rw [Nat.mul_mod_left, Nat.mul_div_cancel c hd]
  dsimp only
  rw [if_neg (by omega)]

section Ratios
variable {num den c : ℕ} {k : ℤ}

theorem floorLog_le_of_short (hn : 0 < num) (hd : 0 < den) (short : c < 2 ^ 53)
    (same : (num / den : ℚ) = c * (2 : ℚ) ^ k) : floorLog num den ≤ 52 + k := by
  have two : (2 : ℚ) ≠ 0 := by norm_num
  have reach : (2 : ℚ) ^ floorLog num den < (2 : ℚ) ^ (53 + k) := by
    calc (2 : ℚ) ^ floorLog num den ≤ c * (2 : ℚ) ^ k := same ▸ (floorLog_bounds hn hd).1
      _ < (2 : ℚ) ^ (53 : ℤ) * (2 : ℚ) ^ k := by
          refine mul_lt_mul_of_pos_right ?_ (two_zpow_pos k)
          exact_mod_cast short
      _ = (2 : ℚ) ^ (53 + k) := (zpow_add₀ two 53 k).symm
  have := (zpow_lt_zpow_iff_right₀ (by norm_num : (1 : ℚ) < 2)).mp reach
  omega

/-- A whole number of units of some scale is a whole quotient when it is scaled. -/
theorem scaled_exact (hd : 0 < den) (same : (num / den : ℚ) = c * (2 : ℚ) ^ k) :
    (scaleBy num den k).1 = c * (scaleBy num den k).2 := by
  have hdq : ((scaleBy num den k).2 : ℚ) ≠ 0 := by exact_mod_cast (scaleBy_den_pos num hd k).ne'
  have scaled : ((scaleBy num den k).1 : ℚ) / (scaleBy num den k).2 = c := by
    rw [scaleBy_ratio, same, mul_div_cancel_right₀ _ (two_zpow_pos k).ne']
  rw [div_eq_iff hdq] at scaled
  exact_mod_cast scaled

theorem ofRatio_exact (s : Bool) (hd : 0 < den) (short : c < 2 ^ 53) (low : minExponent ≤ k)
    (high : k ≤ maxExponent) (same : (num / den : ℚ) = c * (2 : ℚ) ^ k) :
    ∃ (m : ℕ) (e : ℤ), ofRatio s num den = .finite s m e ∧ m * (2 : ℚ) ^ e = c * (2 : ℚ) ^ k := by
  have two : (2 : ℚ) ≠ 0 := by norm_num
  by_cases zero : num = 0
  · refine ⟨0, minExponent, ?_, ?_⟩
    · rw [ofRatio, if_pos zero, signedZero]
    · rw [← same, zero]
      simp
  have hn : 0 < num := Nat.pos_of_ne_zero zero
  have log_le := floorLog_le_of_short hn hd short same
  generalize he : max (floorLog num den - 52) minExponent = e
  obtain ⟨j, hj⟩ := Int.eq_ofNat_of_zero_le (show 0 ≤ k - e by omega)
  have shifted : c * (2 : ℚ) ^ k = (c * 2 ^ j : ℕ) * (2 : ℚ) ^ e := by
    rw [show k = j + e by omega, zpow_add₀ two, zpow_natCast, ← mul_assoc]
    push_cast
    rfl
  have fits : c * 2 ^ j < 2 ^ 53 := by
    have bound : ((c * 2 ^ j : ℕ) : ℚ) * (2 : ℚ) ^ e < (2 : ℚ) ^ (53 : ℤ) * (2 : ℚ) ^ e := by
      rw [← shifted, ← same, ← zpow_add₀ two]
      exact (floorLog_bounds hn hd).2.trans_le (zpow_le_zpow_right₀ (by norm_num) (by omega))
    exact_mod_cast lt_of_mul_lt_mul_right bound (two_zpow_pos e).le
  refine ⟨c * 2 ^ j, e, ?_, shifted.symm⟩
  unfold ofRatio
  rw [if_neg zero, he]
  dsimp only
  rw [scaled_exact hd (same.trans shifted), roundQuotient_exact _ (scaleBy_den_pos num hd e),
    if_neg fits.ne]
  dsimp only
  rw [if_neg (by omega)]

end Ratios

theorem ofNat_exact {n : ℕ} (small : n < 2 ^ 53) :
    ∃ (m : ℕ) (e : ℤ), ofNat n = .finite false m e ∧ m * (2 : ℚ) ^ e = n := by
  have same : ((n : ℕ) / (1 : ℕ) : ℚ) = n * (2 : ℚ) ^ (0 : ℤ) := by simp
  obtain ⟨m, e, written, value⟩ :=
    ofRatio_exact false Nat.one_pos small (by decide) (by decide) same
  exact ⟨m, e, written, by simpa using value⟩

theorem ofNat_value {n : ℕ} (small : n < 2 ^ 53) : (ofNat n).value? = some (n : ℚ) := by
  obtain ⟨m, e, written, value⟩ := ofNat_exact small
  simp [written, value?, value]

theorem ofHalves_value {h : ℕ} (small : h < 2 ^ 53) : (ofHalves h).value? = some (h / 2 : ℚ) := by
  have same : ((h : ℕ) / (2 : ℕ) : ℚ) = h * (2 : ℚ) ^ (-1 : ℤ) := by
    rw [zpow_neg_one, div_eq_mul_inv, Nat.cast_two]
  obtain ⟨m, e, written, value⟩ :=
    ofRatio_exact false Nat.two_pos small (by decide) (by decide) same
  rw [ofHalves, written, value?, value, ← same]
  simp

theorem scaled_neg_iff {i : ℤ} (e : ℤ) : i * (2 : ℚ) ^ e < 0 ↔ i < 0 := by
  rw [← neg_pos, ← neg_mul, mul_pos_iff_of_pos_right (two_zpow_pos e), neg_pos, Int.cast_lt_zero]

theorem sign_mul_abs (q : ℚ) : (if decide (q < 0) then (-1 : ℚ) else 1) * |q| = q := by
  by_cases below : q < 0
  · simp [below, abs_of_neg below]
  · simp [below, abs_of_nonneg (not_lt.mp below)]

theorem ofScaledInt_value (zeroNegative : Bool) {m e : ℤ}
    (rep : Representable (m * (2 : ℚ) ^ e)) :
    (ofScaledInt zeroNegative m e).value? = some (m * (2 : ℚ) ^ e) := by
  by_cases zero : m = 0
  · rw [ofScaledInt, if_pos zero, zero, signedZero, value?]
    simp
  obtain ⟨c, k, short, low, high, size⟩ := rep
  have sign : decide (m < 0) = decide (m * (2 : ℚ) ^ e < 0) :=
    decide_eq_decide.mpr (scaled_neg_iff e).symm
  have magnitude : |m * (2 : ℚ) ^ e| = m.natAbs * (2 : ℚ) ^ e := by
    rw [abs_mul, abs_of_pos (two_zpow_pos e), Nat.cast_natAbs, Int.cast_abs]
  have whole : ∀ {num den : ℕ}, 0 < den → (num / den : ℚ) = m.natAbs * (2 : ℚ) ^ e →
      (ofRatio (decide (m < 0)) num den).value? = some (m * (2 : ℚ) ^ e) := by
    intro num den hd ratio
    rw [← magnitude, size] at ratio
    obtain ⟨n, f, written, value⟩ := ofRatio_exact (decide (m < 0)) hd short low high ratio
    rw [written, value?, value, ← size, sign, sign_mul_abs]
  rw [ofScaledInt, if_neg zero]
  split
  · rename_i he
    obtain ⟨j, rfl⟩ := Int.eq_ofNat_of_zero_le he
    apply whole Nat.one_pos
    simp
  · rename_i he
    obtain ⟨j, hj⟩ := Int.eq_ofNat_of_zero_le (show 0 ≤ -e by omega)
    obtain rfl : e = -(j : ℤ) := by omega
    apply whole (by positivity)
    simp [div_eq_mul_inv]

variable {a b : Double} {x y : ℚ}

theorem value?_eq_some (h : a.value? = some x) :
    ∃ s m e, a = .finite s m e ∧ (if s then -1 else 1) * (m * (2 : ℚ) ^ e) = x := by
  cases a with
  | nan => cases h
  | infinite s => cases h
  | finite s m e => exact ⟨s, m, e, rfl, Option.some.inj h⟩

theorem neg_value (ha : a.value? = some x) : a.neg.value? = some (-x) := by
  obtain ⟨s, m, e, rfl, rfl⟩ := value?_eq_some ha
  cases s <;> simp [neg, value?]

theorem add_value (ha : a.value? = some x) (hb : b.value? = some y)
    (rep : Representable (x + y)) : (a.add b).value? = some (x + y) := by
  obtain ⟨s, m, e, rfl, rfl⟩ := value?_eq_some ha
  obtain ⟨t, n, f, rfl, rfl⟩ := value?_eq_some hb
  have sum : ((alignedTo (min e f) s m e + alignedTo (min e f) t n f : ℤ) : ℚ) *
      (2 : ℚ) ^ min e f =
        (if s then -1 else 1) * (m * (2 : ℚ) ^ e) + (if t then -1 else 1) * (n * (2 : ℚ) ^ f) := by
    rw [Int.cast_add, add_mul, alignedTo_value s m (min_le_left e f),
      alignedTo_value t n (min_le_right e f)]
  rw [← sum] at rep ⊢
  exact ofScaledInt_value (s && t) rep

theorem sub_value (ha : a.value? = some x) (hb : b.value? = some y)
    (rep : Representable (x - y)) : (a.sub b).value? = some (x - y) := by
  rw [sub_eq_add_neg] at rep ⊢
  exact add_value ha (neg_value hb) rep

theorem mul_value (ha : a.value? = some x) (hb : b.value? = some y)
    (rep : Representable (x * y)) : (a.mul b).value? = some (x * y) := by
  obtain ⟨s, m, e, rfl, rfl⟩ := value?_eq_some ha
  obtain ⟨t, n, f, rfl, rfl⟩ := value?_eq_some hb
  by_cases zero : m * n = 0
  · have product : ((if s then -1 else 1) * (m * (2 : ℚ) ^ e)) *
        ((if t then -1 else 1) * (n * (2 : ℚ) ^ f)) = 0 := by
      rcases Nat.mul_eq_zero.mp zero with rfl | rfl <;> simp
    rw [product, mul, if_pos zero, signedZero, value?]
    simp
  · have product : ((if s != t then -((m * n : ℕ) : ℤ) else ((m * n : ℕ) : ℤ) : ℤ) : ℚ) *
        (2 : ℚ) ^ (e + f) = ((if s then -1 else 1) * (m * (2 : ℚ) ^ e)) *
          ((if t then -1 else 1) * (n * (2 : ℚ) ^ f)) := by
      rw [zpow_add₀ (by norm_num : (2 : ℚ) ≠ 0)]
      cases s <;> cases t <;> simp <;> ring
    rw [← product] at rep ⊢
    rw [mul, if_neg zero]
    exact ofScaledInt_value false rep

theorem less_iff (ha : a.value? = some x) (hb : b.value? = some y) :
    a.less b = true ↔ x < y := by
  obtain ⟨s, m, e, rfl, rfl⟩ := value?_eq_some ha
  obtain ⟨t, n, f, rfl, rfl⟩ := value?_eq_some hb
  simp only [less, decide_eq_true_iff]
  rw [← alignedTo_value s m (min_le_left e f), ← alignedTo_value t n (min_le_right e f),
    mul_lt_mul_iff_left₀ (two_zpow_pos _), Int.cast_lt]

theorem zero_value : zero.value? = some 0 := by simp [zero, signedZero, value?]

theorem isNaN_of_value (ha : a.value? = some x) : a.isNaN = false := by
  obtain ⟨s, m, e, rfl, -⟩ := value?_eq_some ha
  rfl

/-- What is not negative is not raised to zero. -/
theorem larger_zero_of_nonneg (ha : a.value? = some x) (nonneg : 0 ≤ x) : a.larger zero = a := by
  have kept : a.less zero = false := by
    rw [← Bool.not_eq_true, less_iff ha zero_value]
    exact not_lt.mpr nonneg
  rw [larger, isNaN_of_value ha, kept]
  rfl

/-- What lies in an interval already is not moved into it. -/
theorem clamp?_of_within {lo hi : Double} {l h : ℚ} (ha : a.value? = some x)
    (hlo : lo.value? = some l) (hhi : hi.value? = some h) (above : l ≤ x) (below : x ≤ h) :
    a.clamp? lo hi = some a := by
  have proper : hi.less lo = false := by
    rw [← Bool.not_eq_true, less_iff hhi hlo]
    exact not_lt.mpr (above.trans below)
  have notLow : a.less lo = false := by
    rw [← Bool.not_eq_true, less_iff ha hlo]
    exact not_lt.mpr above
  have notHigh : hi.less a = false := by
    rw [← Bool.not_eq_true, less_iff hhi ha]
    exact not_lt.mpr below
  simp only [clamp?, isNaN_of_value hlo, isNaN_of_value hhi, proper, notLow, notHigh,
    Bool.or_false, Bool.false_eq_true, if_false]

theorem larger_zero_value (ha : a.value? = some x) : (a.larger zero).value? = some (max x 0) := by
  by_cases nonneg : 0 ≤ x
  · rw [larger_zero_of_nonneg ha nonneg, max_eq_left nonneg, ha]
  · rw [larger, isNaN_of_value ha, (less_iff ha zero_value).mpr (not_le.mp nonneg),
      max_eq_right (not_le.mp nonneg).le]
    exact zero_value

/-- A double that is not negative is rounded with a half going up. -/
theorem roundToNat_value (bound : ℕ) (ha : a.value? = some x) (nonneg : 0 ≤ x) :
    a.roundToNat bound = min bound ⌊x + 1 / 2⌋₊ := by
  obtain ⟨s, m, e, rfl, rfl⟩ := value?_eq_some ha
  cases s with
  | true =>
    have zero : (m : ℚ) * (2 : ℚ) ^ e = 0 := by
      have product := mul_nonneg (Nat.cast_nonneg (α := ℚ) m) (two_zpow_pos e).le
      simp only [if_true] at nonneg
      linarith
    have half : ⌊(0 + 1 / 2 : ℚ)⌋₊ = 0 := Nat.floor_eq_zero.mpr (by norm_num)
    rw [if_pos rfl, zero, mul_zero, half, roundToNat, if_pos rfl, Nat.min_zero]
  | false =>
    have hdpos := scaleBy_den_pos m Nat.one_pos (-e)
    have hdq : (0 : ℚ) < (scaleBy m 1 (-e)).2 := by exact_mod_cast hdpos
    have ratio : ((scaleBy m 1 (-e)).1 : ℚ) / (scaleBy m 1 (-e)).2 = m * (2 : ℚ) ^ e := by
      rw [scaleBy_ratio, zpow_neg, Nat.cast_one, div_one, div_inv_eq_mul]
    have half : (m * (2 : ℚ) ^ e + 1 / 2 : ℚ) =
        ((2 * (scaleBy m 1 (-e)).1 + (scaleBy m 1 (-e)).2 : ℕ) : ℚ) /
          ((2 * (scaleBy m 1 (-e)).2 : ℕ) : ℚ) := by
      rw [← ratio]
      push_cast
      field_simp
    simp only [Bool.false_eq_true, if_false, one_mul]
    rw [half, Nat.floor_div_eq_div]
    rfl

end FixGrader.Double
