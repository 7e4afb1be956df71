import FixGrader.Proofs.Number.Magnitude
/-!
# The range of doubles

A quotient below the threshold of overflow is rounded to a finite double. Rounding adds at most half
of the last place, so that a number which is not among the smallest ones grows by no more than a
factor of `1 + 2 ^ -53`.
-/
namespace FixGrader.Double

/-- A double that is a number, as it is stored: a significand of 53 bits and an exponent in
range. -/
def Proper (d : Double) : Prop :=
  ∃ s m e, d = .finite s m e ∧ m < 2 ^ 53 ∧ minExponent ≤ e ∧ e ≤ maxExponent

def overflow : ℚ := (2 ^ 54 - 1) * (2 : ℚ) ^ (970 : ℤ)

theorem proper_signedZero (negative : Bool) : (signedZero negative).Proper :=
  ⟨negative, 0, minExponent, rfl, by norm_num, le_rfl, by decide⟩

theorem Proper.neg {d : Double} (h : d.Proper) : d.neg.Proper := by
  obtain ⟨s, m, e, rfl, range⟩ := h
  exact ⟨!s, m, e, rfl, range⟩

/-- A finite double is below the threshold. -/
theorem lt_overflow {m : ℕ} {e : ℤ} (short : m < 2 ^ 53) (high : e ≤ maxExponent) :
    (m : ℚ) * (2 : ℚ) ^ e < overflow := by
  have significand : (m : ℚ) ≤ 2 ^ 53 - 1 := by
    have : (m : ℚ) + 1 ≤ 2 ^ 53 := by exact_mod_cast short
    linarith
  have power : (2 : ℚ) ^ e ≤ (2 : ℚ) ^ (970 + 1 : ℤ) := zpow_le_zpow_right₀ (by norm_num) high
  calc (m : ℚ) * (2 : ℚ) ^ e ≤ (2 ^ 53 - 1) * (2 : ℚ) ^ (970 + 1 : ℤ) :=
        mul_le_mul significand power (two_zpow_pos e).le (by norm_num)
    _ = (2 ^ 54 - 2) * (2 : ℚ) ^ (970 : ℤ) := by
        rw [zpow_add_one₀ (by norm_num : (2 : ℚ) ≠ 0)]
        ring
    _ < overflow := mul_lt_mul_of_pos_right (by norm_num) (two_zpow_pos 970)

theorem roundQuotient_near (n : ℕ) {d : ℕ} (hd : 0 < d) :
    (roundQuotient n d : ℚ) ≤ n / d + 1 / 2 := by
  have twice : 2 * (roundQuotient n d * d) ≤ 2 * n + d := by
    have parts := Nat.div_add_mod' n d
    have next := Nat.add_one_mul (n / d) d
    unfold roundQuotient
    dsimp only
    split <;> omega
  have hdq : (0 : ℚ) < d := by exact_mod_cast hd
  have twice : (2 * (roundQuotient n d * d) : ℚ) ≤ 2 * n + d := by exact_mod_cast twice
  have scaled : (n / d + 1 / 2 : ℚ) = (2 * n + d) / (2 * d) := by field_simp
  rw [scaled, le_div_iff₀ (by positivity)]
  linarith

section Rounding
variable {num den : ℕ}

/-- In units of its last place a quotient is below `2 ^ 53`. -/
theorem scaled_lt (hn : 0 < num) (hd : 0 < den) {e : ℤ} (he : floorLog num den - 52 ≤ e) :
    (num / den : ℚ) / (2 : ℚ) ^ e < 2 ^ 53 := by
  obtain ⟨-, below⟩ := floorLog_bounds hn hd
  rw [div_lt_iff₀ (two_zpow_pos e), ← zpow_natCast, ← zpow_add₀ (by norm_num : (2 : ℚ) ≠ 0)]
  refine below.trans_le (zpow_le_zpow_right₀ (by norm_num) ?_)
  push_cast
  omega

theorem overflow_le_of_log (hn : 0 < num) (hd : 0 < den) (h : 1024 ≤ floorLog num den) :
    overflow ≤ num / den := by
  obtain ⟨above, -⟩ := floorLog_bounds hn hd
  calc overflow ≤ 2 ^ 54 * (2 : ℚ) ^ (970 : ℤ) :=
        mul_le_mul_of_nonneg_right (by norm_num) (two_zpow_pos 970).le
    _ = (2 : ℚ) ^ (54 + 970 : ℤ) := by
        rw [zpow_add₀ (by norm_num : (2 : ℚ) ≠ 0)]
        norm_num
    _ ≤ (2 : ℚ) ^ floorLog num den := zpow_le_zpow_right₀ (by norm_num) h
    _ ≤ num / den := above

/-- The significand that a quotient is rounded to has at most 53 bits, or is the next power of two, and
it stands for at most half of the last place more than the quotient. -/
theorem significand_le (hn : 0 < num) (hd : 0 < den) {e : ℤ} (he : floorLog num den - 52 ≤ e) :
    roundQuotient (scaleBy num den e).1 (scaleBy num den e).2 ≤ 2 ^ 53 ∧
      (roundQuotient (scaleBy num den e).1 (scaleBy num den e).2 : ℚ) * (2 : ℚ) ^ e ≤
        num / den + (2 : ℚ) ^ (e - 1) := by
  have small := scaled_lt hn hd he
  have near := roundQuotient_near (scaleBy num den e).1 (scaleBy_den_pos num hd e)
  rw [scaleBy_ratio] at near
  generalize roundQuotient (scaleBy num den e).1 (scaleBy num den e).2 = significand at near ⊢
  constructor
  · have bound : (significand : ℚ) < (2 ^ 53 + 1 : ℕ) := by
      push_cast
      linarith
    have := Nat.cast_lt.mp bound
    omega
  · have scaled := mul_le_mul_of_nonneg_right near (two_zpow_pos e).le
    rw [add_mul, div_mul_cancel₀ _ (two_zpow_pos e).ne'] at scaled
    rw [zpow_sub_one₀ (by norm_num : (2 : ℚ) ≠ 0)]
    linarith

/-- What is rounded up to the power of two above the largest double is beyond the threshold. -/
theorem overflow_le_of_carry
    (h : (2 ^ 53 : ℚ) * (2 : ℚ) ^ maxExponent ≤ num / den + (2 : ℚ) ^ (maxExponent - 1)) :
    overflow ≤ num / den := by
  have above : maxExponent - 1 = 970 := by decide
  have next : maxExponent = 970 + 1 := by decide
  rw [above, next, zpow_add_one₀ (by norm_num : (2 : ℚ) ≠ 0)] at h
  rw [overflow]
  generalize (2 : ℚ) ^ (970 : ℤ) = unit at h ⊢
  linarith

/-- How a quotient is rounded: to a significand of 53 bits, up by at most half of the last place;
and the exponent is too large only for a quotient that is too large. -/
theorem ofRatio_rounds (s : Bool) (hn : 0 < num) (hd : 0 < den) :
    ∃ (m : ℕ) (e : ℤ), m < 2 ^ 53 ∧ minExponent ≤ e ∧
      (m : ℚ) * (2 : ℚ) ^ e ≤
        num / den + (2 : ℚ) ^ (max (floorLog num den - 52) minExponent - 1) ∧
      (maxExponent < e → overflow ≤ num / den) ∧
      ofRatio s num den = if maxExponent < e then .infinite s else .finite s m e := by
  generalize he : max (floorLog num den - 52) minExponent = e
  have low : minExponent ≤ e := he ▸ le_max_right _ _
  obtain ⟨fits, value⟩ := significand_le hn hd (he ▸ le_max_left _ _)
  generalize hsig : roundQuotient (scaleBy num den e).1 (scaleBy num den e).2 = significand
    at fits value
  have large : maxExponent < e → overflow ≤ num / den := by
    intro high
    refine overflow_le_of_log hn hd ?_
    unfold maxExponent at high
    unfold minExponent at he
    omega
  by_cases carry : significand = 2 ^ 53
  · have whole : (significand : ℚ) = 2 ^ 53 := by exact_mod_cast carry
    rw [whole] at value
    refine ⟨2 ^ 52, e + 1, by norm_num, by omega, ?_, ?_, ?_⟩
    · refine le_trans (le_of_eq ?_) value
      rw [zpow_add_one₀ (by norm_num : (2 : ℚ) ≠ 0)]
      push_cast
      ring
    · intro high
      rcases lt_or_ge maxExponent e with higher | highest
      · exact large higher
      · obtain rfl : e = maxExponent := by omega
        exact overflow_le_of_carry value
    · rw [ofRatio, if_neg hn.ne', he]
      dsimp only
      simp only [hsig, carry, if_true]
  · refine ⟨significand, e, by omega, low, value, large, ?_⟩
    rw [ofRatio, if_neg hn.ne', he]
    dsimp only
    simp only [hsig, if_neg carry]

end Rounding

theorem ofRatio_range (s : Bool) (num : ℕ) {den : ℕ} (hd : 0 < den) :
    ofRatio s num den = .infinite s ∨ (ofRatio s num den).Proper := by
  rcases Nat.eq_zero_or_pos num with rfl | hn
  · exact Or.inr (proper_signedZero s)
  obtain ⟨m, e, short, low, -, -, rounded⟩ := ofRatio_rounds s hn hd
  rw [rounded]
  split
  · exact Or.inl rfl
  · exact Or.inr ⟨s, m, e, rfl, short, low, by omega⟩

theorem ofRatio_proper (s : Bool) {num den : ℕ} (hd : 0 < den) (h : (num / den : ℚ) < overflow) :
    (ofRatio s num den).Proper := by
  rcases Nat.eq_zero_or_pos num with rfl | hn
  · exact proper_signedZero s
  obtain ⟨m, e, short, low, -, large, rounded⟩ := ofRatio_rounds s hn hd
  have range : ¬ maxExponent < e := fun high => absurd (large high) (not_le.mpr h)
  rw [rounded, if_neg range]
  exact ⟨s, m, e, rfl, short, low, by omega⟩

theorem ofRatio_within (s : Bool) {num den : ℕ} (hd : 0 < den)
    (low : (2 : ℚ) ^ (-1022 : ℤ) ≤ num / den) (h : (num / den : ℚ) < overflow) :
    ∃ (m : ℕ) (e : ℤ), ofRatio s num den = .finite s m e ∧
      (m : ℚ) * (2 : ℚ) ^ e ≤ num / den * (1 + (2 : ℚ) ^ (-53 : ℤ)) := by
  have two : (2 : ℚ) ≠ 0 := by norm_num
  have hn : 0 < num := by
    rcases Nat.eq_zero_or_pos num with rfl | positive
    · have := two_zpow_pos (-1022)
      simp only [Nat.cast_zero, zero_div] at low
      linarith
    · exact positive
  obtain ⟨m, e, -, -, value, large, rounded⟩ := ofRatio_rounds s hn hd
  obtain ⟨above, below⟩ := floorLog_bounds hn hd
  have range : ¬ maxExponent < e := fun high => absurd (large high) (not_le.mpr h)
  have log : -1022 ≤ floorLog num den := by
    have := (zpow_lt_zpow_iff_right₀ (by norm_num : (1 : ℚ) < 2)).mp (low.trans_lt below)
    omega
  have place : max (floorLog num den - 52) minExponent - 1 = floorLog num den + -53 := by
    unfold minExponent
    omega
  refine ⟨m, e, by rw [rounded, if_neg range], value.trans ?_⟩
  rw [place, zpow_add₀ two, mul_add, mul_one]
  have := mul_le_mul_of_nonneg_right above (two_zpow_pos (-53)).le
  linarith

theorem ofNat_within {n : ℕ} (positive : 0 < n) (h : (n : ℚ) < overflow) :
    ∃ (m : ℕ) (e : ℤ), ofNat n = .finite false m e ∧
      1 ≤ (m : ℚ) * (2 : ℚ) ^ e ∧ (m : ℚ) * (2 : ℚ) ^ e ≤ n * (1 + (2 : ℚ) ^ (-53 : ℤ)) := by
  have one_le : (1 : ℚ) ≤ n := by exact_mod_cast positive
  have ratio : ((n : ℕ) / (1 : ℕ) : ℚ) = n := by simp
  have tiny : (2 : ℚ) ^ (-1022 : ℤ) ≤ 1 := zpow_le_one_of_nonpos₀ (by norm_num) (by norm_num)
  obtain ⟨m, e, rounded, value⟩ :=
    @ofRatio_within false n 1 Nat.one_pos (by rw [ratio]; exact tiny.trans one_le)
      (by rw [ratio]; exact h)
  rw [ratio] at value
  have beyond := ofNat_beyond (n := n) (j := 0) (by rw [pow_zero]; exact positive)
  rw [ofNat] at beyond ⊢
  rw [rounded, pow_zero] at beyond
  obtain infinite | ⟨m', e', same, least⟩ := beyond
  · cases infinite
  · cases same
    exact ⟨m, e, rounded, least, value⟩

theorem ofNat_proper {n : ℕ} (h : (n : ℚ) < overflow) : (ofNat n).Proper :=
  ofRatio_proper false Nat.one_pos (by simpa using h)

theorem ofScaledInt_ratio (zeroNegative : Bool) (m e : ℤ) : ∃ (s : Bool) (num den : ℕ), 0 < den ∧
    ofScaledInt zeroNegative m e = ofRatio s num den ∧
      (num / den : ℚ) = |(m : ℚ)| * (2 : ℚ) ^ e := by
  unfold ofScaledInt
  split
  · rename_i zero
    exact ⟨zeroNegative, 0, 1, Nat.one_pos, by rw [ofRatio, if_pos rfl], by simp [zero]⟩
  · rw [← Int.cast_abs, Int.abs_eq_natAbs, Int.cast_natCast]
    split
    · rename_i he
      obtain ⟨j, rfl⟩ := Int.eq_ofNat_of_zero_le he
      exact ⟨_, _, 1, Nat.one_pos, rfl, by simp⟩
    · rename_i he
      obtain ⟨j, hj⟩ := Int.eq_ofNat_of_zero_le (show 0 ≤ -e by omega)
      obtain rfl : e = -(j : ℤ) := by omega
      exact ⟨_, _, 2 ^ (-(-(j : ℤ))).toNat, by positivity, rfl, by simp [div_eq_mul_inv]⟩

theorem mul_range {a b : Double} (ha : a.Proper) (hb : b.Proper) :
    (∃ s, a.mul b = .infinite s) ∨ (a.mul b).Proper := by
  obtain ⟨s, m, e, rfl, -⟩ := ha
  obtain ⟨t, n, f, rfl, -⟩ := hb
  rw [mul]
  split
  · exact Or.inr (proper_signedZero _)
  · obtain ⟨u, num, den, hd, rounded, -⟩ :=
      ofScaledInt_ratio false (if s != t then -(m * n : ℕ) else (m * n : ℕ)) (e + f)
    rw [rounded]
    exact (ofRatio_range u num hd).imp_left fun infinite => ⟨u, infinite⟩

theorem mul_proper {m n : ℕ} {e f : ℤ}
    (h : (m : ℚ) * (2 : ℚ) ^ e * (n * (2 : ℚ) ^ f) < overflow) :
    ((Double.finite false m e).mul (.finite false n f)).Proper := by
  rw [mul]
  split
  · exact proper_signedZero _
  · obtain ⟨u, num, den, hd, rounded, value⟩ :=
      ofScaledInt_ratio false ((m * n : ℕ) : ℤ) (e + f)
    simp only [bne_self_eq_false, Bool.false_eq_true, if_false]
    rw [rounded]
    refine ofRatio_proper u hd (lt_of_eq_of_lt ?_ h)
    rw [value, Int.cast_natCast, abs_of_nonneg (Nat.cast_nonneg _),
      zpow_add₀ (by norm_num : (2 : ℚ) ≠ 0), Nat.cast_mul]
    ring

/-- Dividing by one or more does not leave the range. -/
theorem div_proper {a : Double} (ha : a.Proper) {n : ℕ} {f : ℤ}
    (divisor : 1 ≤ (n : ℚ) * (2 : ℚ) ^ f) : (a.div (.finite false n f)).Proper := by
  obtain ⟨s, m, e, rfl, short, -, high⟩ := ha
  have positive : 0 < n := by
    rcases Nat.eq_zero_or_pos n with rfl | positive
    · norm_num at divisor
    · exact positive
  have smaller : (m / n / (2 : ℚ) ^ (f - e) : ℚ) ≤ m * (2 : ℚ) ^ e := by
    have quotient : (m / n / (2 : ℚ) ^ (f - e) : ℚ) = m * (2 : ℚ) ^ e / (n * (2 : ℚ) ^ f) := by
      rw [zpow_sub₀ (by norm_num : (2 : ℚ) ≠ 0)]
      field_simp
    rw [quotient]
    exact div_le_self (mul_nonneg (Nat.cast_nonneg m) (two_zpow_pos e).le) divisor
  have ratio := scaleBy_ratio m n (f - e)
  have hd := scaleBy_den_pos m positive (f - e)
  rw [div, if_neg positive.ne']
  generalize scaleBy m n (f - e) = scaled at ratio hd ⊢
  exact ofRatio_proper _ hd (ratio ▸ smaller.trans_lt (lt_overflow short high))

end FixGrader.Double
