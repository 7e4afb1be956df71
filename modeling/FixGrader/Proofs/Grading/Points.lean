import FixGrader.Grading.Grade
import FixGrader.Grading.Score
import FixGrader.Proofs.Number.Magnitude
/-!
# Points and totals

What the points of a stage can be, for every number of findings, and which totals pass.
-/
namespace FixGrader

namespace Scoring
open Double

/-- Where the penalties go beyond the full points by one or more, no points are left. -/
theorem penalized_eq_zero {m p : Nat} {e f : Int} {n j k : Nat} (hn : 2 ^ j ≤ n)
    (beyond : (2 : ℚ) ^ k ≤ p * (2 : ℚ) ^ f * (2 : ℚ) ^ j)
    (below : m * (2 : ℚ) ^ e + 1 ≤ (2 : ℚ) ^ k) :
    penalized (.finite false m e) (.finite false p f) n = .zero := by
  have hproduct := mul_beyond (m := p) (e := f) (k := k) (by omega) (ofNat_beyond hn)
    (by rw [zpow_natCast]; exact beyond)
  rw [zpow_natCast] at hproduct
  exact larger_zero_of_beyond (sub_beyond hproduct below)

theorem patternPoints_of_three_le {n : Nat} (secure : Nat) (h : 3 ≤ n) :
    patternPoints n secure = .zero := by
  rw [patternPoints, if_pos (by omega)]
  rcases Nat.lt_or_ge n 4 with h4 | h4
  · obtain rfl : n = 3 := by omega
    decide
  · rw [show patternMax = .finite false 8444249301319680 (-47) by decide,
      show patternPenalty = .finite false 5629499534213120 (-48) by decide]
    exact penalized_eq_zero (j := 2) (k := 6) h4 (by norm_num) (by norm_num)

/-- The points of the pattern stage, whatever was found. -/
theorem patternPoints_mem (vulnerable secure : Nat) :
    ∃ n ∈ [0, 20, 40, 42, 60], patternPoints vulnerable secure = .ofNat n := by
  rcases Nat.lt_or_ge vulnerable 3 with few | many
  · interval_cases vulnerable
    · rcases Nat.eq_zero_or_pos secure with rfl | found
      · exact ⟨42, by simp, by decide⟩
      · refine ⟨60, by simp, ?_⟩
        rw [patternPoints, if_neg (by omega), if_pos found, patternMax]
    · refine ⟨40, by simp, ?_⟩
      rw [patternPoints, if_pos (by omega)]
      decide +kernel
    · refine ⟨20, by simp, ?_⟩
      rw [patternPoints, if_pos (by omega)]
      decide +kernel
  · exact ⟨0, by simp, patternPoints_of_three_le secure many⟩

/-- Points that are used up by eight findings, if they are as expected for fewer. -/
theorem penalized_eq {full penalty m p k : Nat} {e f : Int}
    (whole : Double.ofNat full = .finite false m e)
    (part : Double.ofNat penalty = .finite false p f)
    (beyond : (2 : ℚ) ^ k ≤ p * (2 : ℚ) ^ f * (2 : ℚ) ^ 3)
    (below : m * (2 : ℚ) ^ e + 1 ≤ (2 : ℚ) ^ k)
    (few : ∀ n < 8, penalized (.ofNat full) (.ofNat penalty) n = .ofNat (full - penalty * n))
    (spent : full ≤ penalty * 8) (n : Nat) :
    penalized (.ofNat full) (.ofNat penalty) n = .ofNat (full - penalty * n) := by
  rcases Nat.lt_or_ge n 8 with less | many
  · exact few n less
  · have nothing : full - penalty * n = 0 :=
      Nat.sub_eq_zero_of_le (spent.trans (Nat.mul_le_mul_left penalty many))
    rw [nothing, whole, part, penalized_eq_zero (j := 3) many beyond below]
    decide

/-- The points of the linter, whatever it found. -/
theorem lintPoints_eq (n : Nat) : lintPoints n = .ofNat (25 - 5 * n) :=
  penalized_eq (m := 7036874417766400) (e := -48) (p := 5629499534213120) (f := -50) (k := 5)
    (by decide) (by decide) (by norm_num) (by norm_num) (by decide +kernel) (by omega) n

/-- The points of the audit, whatever it found. -/
theorem auditPoints_eq (n : Nat) : auditPoints n = .ofNat (15 - 3 * n) :=
  penalized_eq (m := 8444249301319680) (e := -49) (p := 6755399441055744) (f := -51) (k := 4)
    (by decide) (by decide) (by norm_num) (by norm_num) (by decide +kernel) (by omega) n

theorem total_degraded_le : ∀ n ∈ [0, 20, 40, 42, 60],
    total [.ofNat n, lintPartialPoints] ≤ 73 := by
  decide +kernel

theorem isPassing_iff (score : Nat) : isPassing score = true ↔ 80 ≤ score := by
  rw [isPassing, passThreshold, decide_eq_true_iff]

end Scoring

theorem Grade.bPlus_le_forScore_iff (score : Nat) :
    Grade.bPlus.rank ≤ (Grade.forScore score).rank ↔ 80 ≤ score := by
  unfold Grade.forScore Grade.table
  simp only [List.find?_cons, List.find?_nil]
  repeat' split
  all_goals simp_all [Grade.rank]
  all_goals omega

end FixGrader
