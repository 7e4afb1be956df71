import FixGrader.Json.Document
import FixGrader.Proofs.Number.Range
/-!
# Decimals in range

A significand and an exponent of ten are made a double by rounding both and their product or quotient.
What comes of this is always a finite double, and for a decimal that is not among the largest ones
something comes of it.
-/
namespace FixGrader.Json.Document
open Double

theorem cast_mul_pow (c b j : Nat) : ((c * b ^ j : Nat) : ℚ) = c * (b : ℚ) ^ (j : Int) := by
  rw [Nat.cast_mul, Nat.cast_pow, zpow_natCast]

theorem overflow_eq : overflow = (((2 ^ (54 : Nat) - 1) * 2 ^ (970 : Nat) : Nat) : ℚ) := by
  rw [cast_mul_pow (2 ^ (54 : Nat) - 1) 2 970]
  norm_num [overflow]

theorem ten_pow_lt_overflow {j : Nat} (h : j ≤ 308) : ((10 ^ j : Nat) : ℚ) < overflow := by
  have top : 10 ^ (308 : Nat) < (2 ^ (54 : Nat) - 1) * 2 ^ (970 : Nat) := by decide +kernel
  rw [overflow_eq]
  exact Nat.cast_lt.mpr ((Nat.pow_le_pow_right (by decide) h).trans_lt top)

theorem natural_lt_overflow {n : Nat} (h : n ≤ maxNatural) : (n : ℚ) < overflow := by
  have top : maxNatural < (2 ^ (54 : Nat) - 1) * 2 ^ (970 : Nat) := by decide +kernel
  rw [overflow_eq]
  exact Nat.cast_lt.mpr (h.trans_lt top)

/-- A power of ten in range is rounded to a finite double of one or more. -/
theorem ofNat_ten_pow {j : Nat} (h : j ≤ 308) : ∃ (n : Nat) (f : Int),
    Double.ofNat (10 ^ j) = .finite false n f ∧ 1 ≤ (n : ℚ) * (2 : ℚ) ^ f ∧
      (n : ℚ) * (2 : ℚ) ^ f ≤ (10 : ℚ) ^ j * (1 + (2 : ℚ) ^ (-53 : Int)) := by
  obtain ⟨n, f, rounded, least, most⟩ :=
    ofNat_within (Nat.pow_pos (n := j) (by decide : 0 < 10)) (ten_pow_lt_overflow h)
  rw [Nat.cast_pow] at most
  exact ⟨n, f, rounded, least, most⟩

theorem scaleDown_near {e : Int} (near : -308 ≤ e) (fuel : Nat) (d : Double) :
    scaleDown fuel d e = (d, e) := by
  cases fuel with
  | zero => rfl
  | succ fuel => rw [scaleDown, if_neg (fun far => absurd far.1 (by omega))]

theorem scaleDown_proper (fuel : Nat) {d : Double} (h : d.Proper) (e : Int) :
    (scaleDown fuel d e).1.Proper := by
  induction fuel generalizing d e with
  | zero => exact h
  | succ fuel ih =>
    rw [scaleDown]
    split
    · obtain ⟨n, f, rounded, least, -⟩ := ofNat_ten_pow (j := 308) (by decide)
      rw [rounded]
      exact ih (div_proper h least) (e + 308)
    · exact h

theorem scaleDown_negative (fuel : Nat) (d : Double) {e : Int} (negative : e < 0) :
    (scaleDown fuel d e).2 < 0 := by
  induction fuel generalizing d e with
  | zero => exact negative
  | succ fuel ih =>
    rw [scaleDown]
    split
    · exact ih _ (by omega)
    · exact negative

theorem signed_proper (negative : Bool) {d : Double} (h : d.Proper) :
    (if negative then d.neg else d).Proper := by
  cases negative with
  | true => exact h.neg
  | false => exact h

/-- Only finite doubles are read. -/
theorem scaled_proper {negative : Bool} {m : Nat} {e : Int} {d : Double} (small : m ≤ maxNatural)
    (h : scaled? negative m e = some d) : d.Proper := by
  have down := scaleDown_proper 4 (ofNat_proper (natural_lt_overflow small)) e
  unfold scaled? at h
  generalize scaleDown 4 (Double.ofNat m) e = scaled at h down
  obtain ⟨d₁, e₁⟩ := scaled
  dsimp only at h down
  split at h
  · cases h
    exact signed_proper negative down
  split at h
  · cases h
  split at h
  · rename_i inRange natural
    have power := ofNat_proper (ten_pow_lt_overflow (j := e₁.toNat) (by omega))
    split at h
    · cases h
    · rename_i finite
      cases h
      obtain ⟨s, infinite⟩ | proper := mul_range down power
      · exact absurd infinite (finite s)
      · exact signed_proper negative proper
  split at h
  · cases h
    exact signed_proper negative (proper_signedZero false)
  · cases h
    obtain ⟨n, f, rounded, least, -⟩ := ofNat_ten_pow (j := (-e₁).toNat) (by omega)
    rw [rounded]
    exact signed_proper negative (div_proper down least)

/-- Up to here all decimals are read, however they are split. -/
def reach : ℚ := 1797693134862315 * (10 : ℚ) ^ (293 : Int)

theorem reach_eq : reach = ((1797693134862315 * 10 ^ (293 : Nat) : Nat) : ℚ) := by
  rw [cast_mul_pow 1797693134862315 10 293]
  rfl

/-- Within reach there is room for rounding twice. -/
theorem reach_rounded :
    reach * (1 + (2 : ℚ) ^ (-53 : Int)) * (1 + (2 : ℚ) ^ (-53 : Int)) < overflow := by
  have room : 1797693134862315 * 10 ^ (293 : Nat) * (2 ^ (53 : Nat) + 1) * (2 ^ (53 : Nat) + 1) <
      (2 ^ (54 : Nat) - 1) * 2 ^ (970 : Nat) * 2 ^ (53 : Nat) * 2 ^ (53 : Nat) := by decide +kernel
  have factor : 1 + (2 : ℚ) ^ (-53 : Int) =
      ((2 ^ (53 : Nat) + 1 : Nat) : ℚ) / (2 ^ (53 : Nat) : Nat) := by
    norm_num
  have unit : (0 : ℚ) < (2 ^ (53 : Nat) : Nat) := by norm_num
  rw [reach_eq, overflow_eq, factor, mul_div_assoc', mul_div_assoc', div_lt_iff₀ unit, mul_comm_div,
    ← mul_div_assoc, div_lt_iff₀ unit]
  rw [← Nat.cast_mul, ← Nat.cast_mul, ← Nat.cast_mul, ← Nat.cast_mul]
  exact Nat.cast_lt.mpr room

/-- No power of ten beyond the range is within reach. -/
theorem exponent_of_reach {e : Int} (h : (10 : ℚ) ^ e ≤ reach) : e ≤ 308 := by
  have bound : (10 : ℚ) ^ e < (10 : ℚ) ^ (16 + 293 : Int) := by
    refine h.trans_lt ?_
    rw [zpow_add₀ (by norm_num), reach]
    exact mul_lt_mul_of_pos_right (by norm_num) (zpow_pos (by norm_num) _)
  have := (zpow_lt_zpow_iff_right₀ (by norm_num : (1 : ℚ) < 10)).mp bound
  omega

theorem scaled_negative (negative : Bool) (m : Nat) {e : Int} (below : e < 0) :
    ∃ d, scaled? negative m e = some d := by
  have down := scaleDown_negative 4 (Double.ofNat m) below
  unfold scaled?
  generalize scaleDown 4 (Double.ofNat m) e = scaled at down ⊢
  obtain ⟨d₁, e₁⟩ := scaled
  dsimp only at down ⊢
  rw [if_neg (show ¬ 308 < e₁ by omega), if_neg (show ¬ 0 ≤ e₁ by omega)]
  split
  · exact ⟨_, rfl⟩
  split
  · exact ⟨_, rfl⟩
  · exact ⟨_, rfl⟩

/-- A decimal within reach is read. -/
theorem scaled_of_reach (negative : Bool) {m : Nat} {e : Int} (small : m ≤ maxNatural)
    (h : (m : ℚ) * (10 : ℚ) ^ e ≤ reach) : ∃ d, scaled? negative m e = some d := by
  rcases lt_or_ge e 0 with below | natural
  · exact scaled_negative negative m below
  unfold scaled?
  rw [scaleDown_near (by omega)]
  dsimp only
  split
  · exact ⟨_, rfl⟩
  rename_i nonzero
  have positive : 0 < m := by
    rcases Nat.eq_zero_or_pos m with rfl | positive
    · exact absurd rfl nonzero
    · exact positive
  have power : (10 : ℚ) ^ e ≤ m * (10 : ℚ) ^ e :=
    le_mul_of_one_le_left (zpow_nonneg (by norm_num) e) (by exact_mod_cast positive)
  have inRange := exponent_of_reach (power.trans h)
  rw [if_neg (show ¬ 308 < e by omega)]
  obtain ⟨j, rfl⟩ := Int.eq_ofNat_of_zero_le natural
  obtain ⟨n, f, rounded, -, value⟩ := ofNat_within positive (natural_lt_overflow small)
  obtain ⟨n', f', rounded', -, value'⟩ := ofNat_ten_pow (j := j) (by omega)
  have product : (n : ℚ) * (2 : ℚ) ^ f * (n' * (2 : ℚ) ^ f') < overflow := by
    refine lt_of_le_of_lt ?_ reach_rounded
    calc (n : ℚ) * (2 : ℚ) ^ f * (n' * (2 : ℚ) ^ f')
        ≤ m * (1 + (2 : ℚ) ^ (-53 : Int)) * ((10 : ℚ) ^ j * (1 + (2 : ℚ) ^ (-53 : Int))) :=
          mul_le_mul value value' (by positivity) (by positivity)
      _ = m * (10 : ℚ) ^ (j : Int) * (1 + (2 : ℚ) ^ (-53 : Int)) * (1 + (2 : ℚ) ^ (-53 : Int)) := by
          rw [zpow_natCast]
          ring
      _ ≤ reach * (1 + (2 : ℚ) ^ (-53 : Int)) * (1 + (2 : ℚ) ^ (-53 : Int)) := by gcongr
  rw [Int.toNat_natCast, rounded, rounded']
  obtain ⟨s, c, k, finite, -⟩ := mul_proper product
  rw [finite]
  exact ⟨_, rfl⟩

end FixGrader.Json.Document
