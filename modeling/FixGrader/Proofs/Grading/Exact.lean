import FixGrader.Proofs.Grading.Points
import FixGrader.Proofs.Number.Exact
/-!
# Points and totals as exact numbers

The points of a stage are wholes or halves, and small ones, so that scoring never rounds before its
end: the points are what the plain formulas give, and the total is their sum with a half going away
from zero.
-/
namespace FixGrader.Scoring
open Double

/-- The integer nearest to a number, a half going away from zero. -/
def nearest (x : ℚ) : ℤ := if x < 0 then -⌊-x + 1 / 2⌋ else ⌊x + 1 / 2⌋

/-- Points that are a number of halves. -/
def InHalves (points : Double) (halves : ℕ) : Prop := points.value? = some (halves / 2 : ℚ)

/-- What a penalty for each finding leaves. -/
theorem penalized_value (full penalty : ℕ) (positive : 0 < penalty) (moderate : penalty < 64)
    (limited : full < 64) (count : ℕ) :
    (penalized (.ofNat full) (.ofNat penalty) count).value? =
      some (max 0 (full - penalty * count : ℚ)) := by
  have full_value := ofNat_value (n := full) (by omega)
  rcases Nat.lt_or_ge count (2 ^ 40) with few | many
  · have cost_small : penalty * count < 2 ^ 46 :=
      (Nat.mul_lt_mul_of_lt_of_le moderate few.le (by norm_num)).trans_eq (by norm_num)
    have cost_exact : Representable (penalty * count : ℚ) := by
      exact_mod_cast representable_int (i := (penalty * count : ℕ)) (by rw [Nat.abs_cast]; omega)
    have rest_exact : Representable (full - penalty * count : ℚ) := by
      exact_mod_cast representable_int (i := (full : ℤ) - (penalty * count : ℕ))
        (by rw [abs_lt]; omega)
    have cost := mul_value (ofNat_value (by omega)) (ofNat_value (by omega)) cost_exact
    have rest := sub_value full_value cost rest_exact
    rw [penalized, max_comm]
    exact larger_zero_value rest
  · obtain ⟨m, e, written, value⟩ := ofNat_exact (n := full) (by omega)
    obtain ⟨p, f, written', value'⟩ := ofNat_exact (n := penalty) (by omega)
    have many' : (2 : ℚ) ^ 40 ≤ count := by exact_mod_cast many
    have one_le : (1 : ℚ) ≤ penalty := by exact_mod_cast positive
    have limited' : (full : ℚ) < 64 := by exact_mod_cast limited
    have nothing : penalized (.ofNat full) (.ofNat penalty) count = .zero := by
      rw [written, written']
      refine penalized_eq_zero (j := 40) (k := 40) many ?_ ?_
      · rw [value']
        exact le_mul_of_one_le_left (by positivity) one_le
      · rw [value]
        linarith
    have exceeded : (full - penalty * count : ℚ) ≤ 0 := by nlinarith
    rw [nothing, max_eq_left exceeded]
    simp [zero, signedZero, value?]

theorem patternPoints_value (vulnerable secure : ℕ) :
    (patternPoints vulnerable secure).value? =
      some (if 0 < vulnerable then max 0 (60 - 20 * vulnerable : ℚ)
        else if 0 < secure then 60 else 42) := by
  unfold patternPoints
  split
  · exact penalized_value 60 20 (by decide) (by decide) (by decide) vulnerable
  · split
    · exact ofNat_value (n := 60) (by decide)
    · rw [show patternMax.mul patternNoEvidenceFactor = .ofNat 42 by decide]
      exact ofNat_value (n := 42) (by decide)

theorem lintPartialPoints_value : lintPartialPoints.value? = some (25 / 2 : ℚ) := by
  rw [show lintPartialPoints = .ofHalves 25 by decide]
  exact ofHalves_value (h := 25) (by decide)

theorem auditPartialPoints_value : auditPartialPoints.value? = some (12 : ℚ) := by
  rw [show auditPartialPoints = .ofNat 12 by decide]
  exact ofNat_value (n := 12) (by decide)

/-- Whole points with a penalty for each finding are halves, and no more than the full ones. -/
theorem halves_of_penalized (full penalty count : ℕ) :
    max 0 (full - penalty * count : ℚ) = ((2 * (full - penalty * count) : ℕ) : ℚ) / 2 := by
  rcases Nat.le_total (penalty * count) full with within | beyond
  · have within' : (penalty * count : ℚ) ≤ full := by exact_mod_cast within
    rw [max_eq_right (sub_nonneg.mpr within')]
    push_cast [Nat.cast_sub within]
    ring
  · have beyond' : (full : ℚ) ≤ penalty * count := by exact_mod_cast beyond
    rw [max_eq_left (sub_nonpos.mpr beyond'), Nat.sub_eq_zero_of_le beyond]
    simp

theorem within_of_inHalves {points full : Double} {halves most : ℕ}
    (counted : InHalves points halves) (limited : halves ≤ 2 * most)
    (full_value : full.value? = some (most : ℚ)) :
    ∃ x y, points.value? = some x ∧ full.value? = some y ∧ 0 ≤ x ∧ x ≤ y := by
  have limited' : (halves : ℚ) ≤ 2 * most := by exact_mod_cast limited
  refine ⟨halves / 2, most, counted, full_value, by positivity, ?_⟩
  linarith

theorem nearest_halves (halves : ℕ) : nearest (halves / 2 : ℚ) = ⌊(halves / 2 + 1 / 2 : ℚ)⌋₊ := by
  have nonneg : (0 : ℚ) ≤ halves / 2 := by positivity
  rw [nearest, if_neg (not_lt.mpr nonneg), Int.natCast_floor_eq_floor (by positivity)]

/-- Adding points that are halves is exact. -/
theorem sum_inHalves {points : List Double} {halves : List ℕ}
    (each : List.Forall₂ InHalves points halves) {sum : Double} {before : ℕ}
    (start : InHalves sum before) (small : before + halves.sum < 2 ^ 53) :
    InHalves (points.foldl (fun (sum p : Double) => sum.add (p.larger .zero)) sum)
      (before + halves.sum) := by
  induction each generalizing sum before with
  | nil => simpa using start
  | @cons p h points halves first _ ih =>
    rw [List.sum_cons] at small ⊢
    have nonneg : (0 : ℚ) ≤ h / 2 := by positivity
    have raised : (p.larger .zero).value? = some (h / 2 : ℚ) := by
      rw [larger_zero_value first, max_eq_left nonneg]
    have next : InHalves (sum.add (p.larger .zero)) (before + h) := by
      have halved : ((before + h : ℕ) / 2 : ℚ) = before / 2 + h / 2 := by
        rw [Nat.cast_add, add_div]
      rw [InHalves, halved]
      apply add_value start raised
      rw [← halved]
      exact representable_half (by omega)
    rw [← Nat.add_assoc] at small ⊢
    exact ih next small

theorem values_inHalves {points : List Double} {halves : List ℕ}
    (each : List.Forall₂ InHalves points halves) :
    (points.filterMap value?).sum = (halves.sum / 2 : ℚ) := by
  induction each with
  | nil => simp
  | cons first _ ih => rw [List.filterMap_cons_some first, List.sum_cons, ih, List.sum_cons,
      Nat.cast_add, add_div]

theorem total_eq {points : List Double} {halves : List ℕ}
    (each : List.Forall₂ InHalves points halves) (most : halves.sum ≤ 200) :
    (total points : ℤ) = nearest (points.filterMap value?).sum := by
  have start : InHalves .zero 0 := by simp [InHalves, zero, signedZero, value?]
  have sum := sum_inHalves each start (by omega)
  rw [Nat.zero_add] at sum
  have bounded : ⌊(halves.sum / 2 + 1 / 2 : ℚ)⌋₊ ≤ 100 := by
    have most' : (halves.sum : ℚ) ≤ 200 := by exact_mod_cast most
    have below : ⌊(halves.sum / 2 + 1 / 2 : ℚ)⌋₊ < 101 := by
      rw [Nat.floor_lt (by positivity), Nat.cast_ofNat]
      linarith
    exact Nat.le_of_lt_succ below
  rw [values_inHalves each, nearest_halves, total, roundToNat_value _ sum (by positivity)]
  rw [maxScore]
  omega

/-- The total of points that are halves is half of their number, rounded up. -/
theorem total_halves {points : List Double} {halves : List ℕ}
    (each : List.Forall₂ InHalves points halves) (most : halves.sum ≤ 200) :
    total points = (halves.sum + 1) / 2 := by
  have rounded := total_eq each most
  have whole : (halves.sum / 2 + 1 / 2 : ℚ) = ((halves.sum + 1 : ℕ) : ℚ) / ((2 : ℕ) : ℚ) := by
    push_cast
    ring
  rw [values_inHalves each, nearest_halves, whole, Nat.floor_div_eq_div] at rounded
  exact_mod_cast rounded

end FixGrader.Scoring
