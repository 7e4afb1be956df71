import FixGrader.Proofs.Number.Magnitude
import FixGrader.Number.Shortest
/-!
# How large a shortest decimal is

The shortest decimal of a double lies among the reals that are rounded to it, so it is at most half
of the last place above the double. For the largest doubles it is a multiple of `10 ^ 292`.
-/
namespace FixGrader.Double

theorem scaleBy_eq (x : Nat) (e : Int) :
    scaleBy x 1 e = (x * (scaleBy 1 1 e).1, (scaleBy 1 1 e).2) := by
  unfold scaleBy
  split <;> simp

theorem onGrid_eq (e k : Int) (x : Nat) :
    onGrid e k x = (x * (onGrid e k 1).1, (onGrid e k 1).2) := by
  unfold onGrid
  rw [scaleBy_eq x]
  dsimp only
  split <;> simp only [Nat.mul_assoc]

theorem onGrid_den_pos (e k : Int) : 0 < (onGrid e k 1).2 := by
  have positive := scaleBy_den_pos 1 Nat.one_pos (2 - e)
  unfold onGrid
  dsimp only
  split
  · exact Nat.mul_pos positive (Nat.pow_pos (by decide))
  · exact positive

theorem onGrid_ratio (e k : Int) :
    ((onGrid e k 1).1 : ℚ) / (onGrid e k 1).2 = (2 : ℚ) ^ (e - 2) / (10 : ℚ) ^ k := by
  have ratio := scaleBy_ratio 1 1 (2 - e)
  rw [Nat.cast_one, div_one, one_div, ← zpow_neg, neg_sub] at ratio
  rw [← ratio]
  unfold onGrid
  by_cases hk : 0 ≤ k
  · obtain ⟨j, rfl⟩ := Int.eq_ofNat_of_zero_le hk
    simp [div_div]
  · obtain ⟨j, hj⟩ := Int.eq_ofNat_of_zero_le (show 0 ≤ -k by omega)
    obtain rfl : k = -(j : Int) := by omega
    simp only [hk, if_false, neg_neg, Int.toNat_natCast, zpow_neg, zpow_natCast]
    push_cast
    rw [div_inv_eq_mul]
    ring

/-- Whether the point `c` of the grid `10 ^ k` is rounded to `m · 2 ^ e`. -/
def isNear (m : Nat) (e k : Int) (c : Nat) : Bool :=
  let near := neighbourhood m e
  let (n, d) := onGrid e k 1
  if near.closed then decide (near.low * n ≤ c * d) && decide (c * d ≤ near.high * n)
  else decide (near.low * n < c * d) && decide (c * d < near.high * n)

/-- The last point of the grid `10 ^ k` that is not above `m · 2 ^ e`. -/
def pointBelow (m : Nat) (e k : Int) : Nat := 4 * m * (onGrid e k 1).1 / (onGrid e k 1).2

/-- Which of its two neighbours on the grid is taken is decided by which are rounded to the number. -/
theorem gridPoint_eq (m : Nat) (e k : Int) : ∃ nearer : Nat,
    (nearer = pointBelow m e k ∨ nearer = pointBelow m e k + 1) ∧
      gridPoint? m e k =
        match isNear m e k (pointBelow m e k), isNear m e k (pointBelow m e k + 1) with
        | true, true => some nearer
        | true, false => some (pointBelow m e k)
        | false, true => some (pointBelow m e k + 1)
        | false, false => none := by
  unfold gridPoint?
  simp only [onGrid_eq e k (4 * m), onGrid_eq e k (neighbourhood m e).low,
    onGrid_eq e k (neighbourhood m e).high]
  generalize below : isNear m e k (pointBelow m e k) = b
  generalize above : isNear m e k (pointBelow m e k + 1) = a
  unfold isNear pointBelow at below above
  dsimp only at below above
  rw [below, above]
  cases b <;> cases a
  · exact ⟨_, Or.inl rfl, rfl⟩
  · exact ⟨_, Or.inl rfl, rfl⟩
  · exact ⟨_, Or.inl rfl, rfl⟩
  · dsimp only
    split
    · exact ⟨_, Or.inl rfl, rfl⟩
    split
    · exact ⟨_, Or.inr rfl, rfl⟩
    split
    · exact ⟨_, Or.inl rfl, rfl⟩
    · exact ⟨_, Or.inr rfl, rfl⟩

theorem gridPoint_some {m : Nat} {e k : Int} {c : Nat} (h : gridPoint? m e k = some c) :
    isNear m e k c = true ∧ (c = pointBelow m e k ∨ c = pointBelow m e k + 1) := by
  obtain ⟨nearer, choice, same⟩ := gridPoint_eq m e k
  rw [same] at h
  split at h
  · rename_i below above
    cases h
    rcases choice with rfl | rfl
    · exact ⟨below, Or.inl rfl⟩
    · exact ⟨above, Or.inr rfl⟩
  · rename_i below above
    cases h
    exact ⟨below, Or.inl rfl⟩
  · rename_i below above
    cases h
    exact ⟨above, Or.inr rfl⟩
  · cases h

theorem gridPoint_none {m : Nat} {e k : Int} (h : gridPoint? m e k = none) :
    isNear m e k (pointBelow m e k) = false ∧ isNear m e k (pointBelow m e k + 1) = false := by
  obtain ⟨nearer, -, same⟩ := gridPoint_eq m e k
  rw [same] at h
  split at h
  · cases h
  · cases h
  · cases h
  · rename_i below above
    exact ⟨below, above⟩

/-- What is rounded to a number is at most half of its last place above it. -/
theorem isNear_le {m : Nat} {e k : Int} {c : Nat} (h : isNear m e k c = true) :
    c * (onGrid e k 1).2 ≤ (4 * m + 2) * (onGrid e k 1).1 := by
  unfold isNear at h
  dsimp only at h
  split at h
  · rw [Bool.and_eq_true, decide_eq_true_iff, decide_eq_true_iff] at h
    exact h.2
  · rw [Bool.and_eq_true, decide_eq_true_iff, decide_eq_true_iff] at h
    exact h.2.le

/-- On each grid a point is taken, or the search goes on with the next one. -/
theorem coarsestGrid_cases (m : Nat) (e : Int) (fuel : Nat) (k : Int) :
    (∃ c, gridPoint? m e k = some c ∧ c ≠ 0 ∧ coarsestGrid m e (fuel + 1) k = ⟨c, k⟩) ∨
      (∀ c, gridPoint? m e k = some c → c = 0) ∧
        coarsestGrid m e (fuel + 1) k = coarsestGrid m e fuel (k - 1) := by
  rw [coarsestGrid]
  cases found : gridPoint? m e k with
  | none => exact Or.inr ⟨by simp, rfl⟩
  | some c =>
    by_cases zero : c = 0
    · exact Or.inr ⟨by simp [zero], by simp only [if_pos zero]⟩
    · exact Or.inl ⟨c, rfl, zero, by simp only [if_neg zero]⟩

theorem coarsestGrid_le (m : Nat) (e : Int) (fuel : Nat) (k : Int) :
    (coarsestGrid m e fuel k).digits * (onGrid e (coarsestGrid m e fuel k).exponent 1).2 ≤
      (4 * m + 2) * (onGrid e (coarsestGrid m e fuel k).exponent 1).1 := by
  induction fuel generalizing k with
  | zero =>
    rw [coarsestGrid, onGrid_eq e k (4 * m)]
    dsimp only
    refine (Nat.div_mul_le_self _ _).trans (Nat.mul_le_mul_right _ ?_)
    omega
  | succ fuel ih =>
    obtain ⟨c, found, -, same⟩ | ⟨-, same⟩ := coarsestGrid_cases m e fuel k
    · rw [same]
      exact isNear_le (gridPoint_some found).1
    · rw [same]
      exact ih (k - 1)

theorem shortest_le (m : Nat) (e : Int) :
    ((shortest m e).digits : ℚ) * (10 : ℚ) ^ (shortest m e).exponent ≤
      (4 * m + 2 : Nat) * (2 : ℚ) ^ (e - 2) := by
  have bound := coarsestGrid_le m e 24 (decimalExponentBound m e)
  change (shortest m e).digits * _ ≤ (4 * m + 2) * _ at bound
  have den : (0 : ℚ) < (onGrid e (shortest m e).exponent 1).2 := by
    exact_mod_cast onGrid_den_pos e (shortest m e).exponent
  have ten : (0 : ℚ) < (10 : ℚ) ^ (shortest m e).exponent := zpow_pos (by norm_num) _
  have ratio := onGrid_ratio e (shortest m e).exponent
  rw [div_eq_div_iff den.ne' ten.ne'] at ratio
  have bound : ((shortest m e).digits : ℚ) * (onGrid e (shortest m e).exponent 1).2 ≤
      (4 * m + 2 : Nat) * (onGrid e (shortest m e).exponent 1).1 := by exact_mod_cast bound
  refine le_of_mul_le_mul_right ?_ den
  calc ((shortest m e).digits : ℚ) * (10 : ℚ) ^ (shortest m e).exponent *
        (onGrid e (shortest m e).exponent 1).2
      = (shortest m e).digits * (onGrid e (shortest m e).exponent 1).2 *
          (10 : ℚ) ^ (shortest m e).exponent := by ring
    _ ≤ (4 * m + 2 : Nat) * (onGrid e (shortest m e).exponent 1).1 *
          (10 : ℚ) ^ (shortest m e).exponent := mul_le_mul_of_nonneg_right bound ten.le
    _ = (4 * m + 2 : Nat) * (2 : ℚ) ^ (e - 2) * (onGrid e (shortest m e).exponent 1).2 := by
        rw [mul_assoc, ratio]
        ring

theorem neighbourhood_low {m : Nat} (hm : 0 < m) (e : Int) :
    (neighbourhood m e).low + 1 ≤ 4 * m := by
  unfold neighbourhood
  dsimp only
  split <;> omega

theorem isNear_of_between {m : Nat} {e k : Int} {c : Nat}
    (low : (neighbourhood m e).low * (onGrid e k 1).1 < c * (onGrid e k 1).2)
    (high : c * (onGrid e k 1).2 < (4 * m + 2) * (onGrid e k 1).1) : isNear m e k c = true := by
  have high : c * (onGrid e k 1).2 < (neighbourhood m e).high * (onGrid e k 1).1 := high
  unfold isNear
  dsimp only
  split
  · rw [decide_eq_true low.le, decide_eq_true high.le]
    rfl
  · rw [decide_eq_true low, decide_eq_true high]
    rfl

/-- A grid has a point for each number whose last place is more than four thirds of its step. -/
theorem gridPoint_of_fine {m : Nat} {e k : Int} (hm : 0 < m)
    (fine : (onGrid e k 1).2 < 3 * (onGrid e k 1).1) :
    ∃ c, gridPoint? m e k = some c ∧ c ≠ 0 := by
  have hd := onGrid_den_pos e k
  have split := Nat.div_add_mod' (4 * m * (onGrid e k 1).1) (onGrid e k 1).2
  have rest := Nat.mod_lt (4 * m * (onGrid e k 1).1) hd
  have low := Nat.mul_le_mul_right (onGrid e k 1).1 (neighbourhood_low hm e)
  have positive : 1 ≤ pointBelow m e k := by
    rw [pointBelow, Nat.one_le_div_iff hd]
    have := Nat.mul_le_mul_right (onGrid e k 1).1 (show 4 ≤ 4 * m by omega)
    omega
  cases found : gridPoint? m e k with
  | some c =>
    refine ⟨c, rfl, ?_⟩
    rcases (gridPoint_some found).2 with rfl | rfl <;> omega
  | none =>
    obtain ⟨below, above⟩ := gridPoint_none found
    change pointBelow m e k * _ + _ = _ at split
    rw [Nat.add_one_mul] at low
    exfalso
    rcases Nat.lt_or_ge (4 * m * (onGrid e k 1).1 % (onGrid e k 1).2) (onGrid e k 1).1 with
      little | much
    · have near : isNear m e k (pointBelow m e k) = true := by
        refine isNear_of_between (by omega) ?_
        rw [Nat.add_mul]
        omega
      rw [below] at near
      cases near
    · have near : isNear m e k (pointBelow m e k + 1) = true := by
        refine isNear_of_between ?_ ?_
        · rw [Nat.add_one_mul]
          omega
        · rw [Nat.add_one_mul, Nat.add_mul]
          omega
      rw [above] at near
      cases near

theorem coarsestGrid_exponent {m : Nat} {e : Int} {least : Int}
    (point : ∃ c, gridPoint? m e least = some c ∧ c ≠ 0) (fuel : Nat) {k : Int} (above : least ≤ k)
    (enough : k < least + fuel) : least ≤ (coarsestGrid m e fuel k).exponent := by
  induction fuel generalizing k with
  | zero => omega
  | succ fuel ih =>
    obtain ⟨c, -, -, same⟩ | ⟨nothing, same⟩ := coarsestGrid_cases m e fuel k
    · rw [same]
      exact above
    · have further : least < k := by
        refine lt_of_le_of_ne above ?_
        rintro rfl
        obtain ⟨c, found, positive⟩ := point
        exact positive (nothing c found)
      rw [same]
      exact ih (by omega) (by omega)

/-- The shortest decimals of the largest doubles are multiples of `10 ^ 292`. -/
theorem shortest_top {m : Nat} (hm : 0 < m) (short : m < 2 ^ (53 : Nat)) :
    292 ≤ (shortest m 971).exponent := by
  have log : m.log2 < 53 := (Nat.log2_lt hm.ne').mpr short
  refine coarsestGrid_exponent (gridPoint_of_fine hm (by decide +kernel)) 24 ?_ ?_
  · unfold decimalExponentBound
    omega
  · unfold decimalExponentBound
    omega

theorem onGrid_top (j : Nat) :
    onGrid 971 (292 + j) 1 = (2 ^ (969 : Nat), 10 ^ j * 10 ^ (292 : Nat)) := by
  have scale : scaleBy 1 1 (2 - 971) = (2 ^ (969 : Nat), 1) := by decide +kernel
  have whole : (292 + (j : Int)).toNat = j + 292 := by omega
  rw [onGrid, scale]
  dsimp only
  rw [if_pos (by omega), whole, Nat.one_mul, Nat.pow_add]

/-- How many of these multiples a shortest decimal of one of the largest doubles is. -/
theorem shortest_top_le {m j : Nat} (exponent : (shortest m 971).exponent = 292 + j) :
    (shortest m 971).digits * 10 ^ j * 10 ^ (292 : Nat) ≤ (4 * m + 2) * 2 ^ (969 : Nat) := by
  have bound := coarsestGrid_le m 971 24 (decimalExponentBound m 971)
  change (shortest m 971).digits * (onGrid 971 (shortest m 971).exponent 1).2 ≤
    (4 * m + 2) * (onGrid 971 (shortest m 971).exponent 1).1 at bound
  rw [exponent, onGrid_top] at bound
  generalize 2 ^ (969 : Nat) = unit at bound ⊢
  rw [Nat.mul_assoc]
  exact bound

/-- The search only ends with zero where the last of its grids is too coarse. -/
theorem coarsestGrid_zero {m : Nat} {e : Int} (fuel : Nat) (k : Int)
    (zero : (coarsestGrid m e fuel k).digits = 0) :
    (coarsestGrid m e fuel k).exponent = k - fuel ∧
      4 * m * (onGrid e (k - fuel) 1).1 < (onGrid e (k - fuel) 1).2 := by
  induction fuel generalizing k with
  | zero =>
    rw [coarsestGrid, onGrid_eq e k (4 * m)] at zero ⊢
    dsimp only at zero ⊢
    rw [Nat.cast_zero, sub_zero]
    exact ⟨rfl, (Nat.div_eq_zero_iff_lt (onGrid_den_pos e k)).mp zero⟩
  | succ fuel ih =>
    have further : k - (fuel + 1 : Nat) = k - 1 - fuel := by omega
    obtain ⟨c, -, positive, same⟩ | ⟨-, same⟩ := coarsestGrid_cases m e fuel k
    · rw [same] at zero
      exact absurd zero positive
    · rw [same] at zero ⊢
      rw [further]
      exact ih (k - 1) zero

/-- Powers of ten against powers of two: `10 ^ 3` is below `2 ^ 10`, and `10 ^ 4` above `2 ^ 13`. -/
theorem ten_zpow_le {k l : Int} (h : 0 ≤ k ∧ 10 * k ≤ 3 * l ∨ k < 0 ∧ 13 * k ≤ 4 * l) :
    (10 : ℚ) ^ k ≤ (2 : ℚ) ^ l := by
  rcases h with ⟨natural, bound⟩ | ⟨negative, bound⟩
  · refine le_of_pow_le_pow_left₀ (n := 3) (by decide) (two_zpow_pos l).le ?_
    calc ((10 : ℚ) ^ k) ^ 3 = (10 ^ 3) ^ k := by rw [← zpow_natCast, ← zpow_natCast, zpow_comm]
      _ ≤ (2 ^ 10) ^ k := zpow_le_zpow_left₀ natural (by norm_num) (by norm_num)
      _ = (2 : ℚ) ^ (10 * k) := by rw [zpow_mul, ← zpow_natCast]; rfl
      _ ≤ (2 : ℚ) ^ (l * 3) := zpow_le_zpow_right₀ (by norm_num) (by omega)
      _ = ((2 : ℚ) ^ l) ^ 3 := by rw [zpow_mul, ← zpow_natCast]; rfl
  · refine le_of_pow_le_pow_left₀ (n := 4) (by decide) (two_zpow_pos l).le ?_
    calc ((10 : ℚ) ^ k) ^ 4 = (10 ^ 4)⁻¹ ^ (-k) := by
          rw [← zpow_natCast, ← zpow_natCast, zpow_comm, inv_zpow', neg_neg]
      _ ≤ (2 ^ 13)⁻¹ ^ (-k) := zpow_le_zpow_left₀ (by omega) (by norm_num) (by norm_num)
      _ = (2 : ℚ) ^ (13 * k) := by
          rw [inv_zpow', neg_neg, zpow_mul, ← zpow_natCast]
          rfl
      _ ≤ (2 : ℚ) ^ (l * 4) := zpow_le_zpow_right₀ (by norm_num) (by omega)
      _ = ((2 : ℚ) ^ l) ^ 4 := by rw [zpow_mul, ← zpow_natCast]; rfl

/-- The shortest decimal of a positive double is not zero: the last grid that is tried is finer than
the double is large. -/
theorem shortest_pos {m : Nat} {e : Int} (hm : 0 < m) (short : m < 2 ^ (53 : Nat))
    (low : minExponent ≤ e) (high : e ≤ maxExponent) : 0 < (shortest m e).digits := by
  by_contra zero
  obtain ⟨-, coarse⟩ := coarsestGrid_zero 24 (decimalExponentBound m e) (by
    change (shortest m e).digits = 0
    omega)
  have fine : (10 : ℚ) ^ (decimalExponentBound m e - (24 : Nat)) ≤ m * (2 : ℚ) ^ e := by
    have log : m.log2 < 53 := (Nat.log2_lt hm.ne').mpr short
    calc (10 : ℚ) ^ (decimalExponentBound m e - (24 : Nat)) ≤ (2 : ℚ) ^ ((m.log2 : Int) + e) := by
          apply ten_zpow_le
          unfold decimalExponentBound
          unfold minExponent at low
          unfold maxExponent at high
          omega
      _ = (2 : ℚ) ^ (m.log2 : Int) * (2 : ℚ) ^ e := zpow_add₀ (by norm_num) _ _
      _ ≤ m * (2 : ℚ) ^ e := mul_le_mul_of_nonneg_right (two_pow_log2_le hm) (two_zpow_pos e).le
  generalize decimalExponentBound m e - (24 : Nat) = k at coarse fine
  have below : (4 * m : ℚ) * ((2 : ℚ) ^ (e - 2) / (10 : ℚ) ^ k) < 1 := by
    have den : (0 : ℚ) < (onGrid e k 1).2 := by exact_mod_cast onGrid_den_pos e k
    rw [← onGrid_ratio, mul_div_assoc', div_lt_one den]
    exact_mod_cast coarse
  rw [mul_div_assoc', div_lt_one (zpow_pos (by norm_num) _), zpow_sub₀ (by norm_num)] at below
  have quarter : (4 * m * ((2 : ℚ) ^ e / 2 ^ (2 : Int))) = m * (2 : ℚ) ^ e := by
    rw [zpow_ofNat]
    ring
  rw [quarter] at below
  exact absurd fine (not_le.mpr below)

end FixGrader.Double
