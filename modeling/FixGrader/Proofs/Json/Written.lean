import FixGrader.Proofs.Json.ReadBack
import FixGrader.Proofs.Json.Scaling
/-!
# Written numbers

A number is written as digits, maybe with a fraction and an exponent. What the reader makes of it
stands for no more than the decimal that is written, so that a decimal within reach is always read.
-/
namespace FixGrader.Json.Document

theorem digitValue_le {c : Char} (digit : Text.isAsciiDigit c = true) :
    c.toNat - '0'.toNat ≤ 9 := by
  simp only [Text.isAsciiDigit, Bool.and_eq_true, decide_eq_true_eq, Char.le_def] at digit
  have high : c.toNat ≤ '9'.toNat := digit.2
  exact Nat.sub_le_sub_right high _

theorem ofDigitChars_lt {cs : List Char} (digits : ∀ c ∈ cs, Text.isAsciiDigit c = true) :
    Nat.ofDigitChars 10 cs 0 < 10 ^ cs.length := by
  induction cs with
  | nil => simp
  | cons c cs ih =>
    have rest := ih fun c' listed => digits c' (List.mem_cons_of_mem c listed)
    have first := digitValue_le (digits c List.mem_cons_self)
    rw [Nat.ofDigitChars_cons, Nat.ofDigitChars_eq_ofDigitChars_zero, List.length_cons, Nat.pow_succ,
      Nat.mul_zero, Nat.zero_add]
    have := Nat.mul_le_mul_left (10 ^ cs.length) first
    omega

/-- Digits that are left out are not made up for. -/
theorem takeDigits_bound (cs : List Char) (n : Nat) : (takeDigits n cs).2.1 ≤ cs.length ∧
    (takeDigits n cs).1 * 10 ^ (cs.length - (takeDigits n cs).2.1) ≤ Nat.ofDigitChars 10 cs n := by
  induction cs generalizing n with
  | nil => simp [takeDigits]
  | cons c cs ih =>
    rw [takeDigits]
    split
    · rw [Nat.ofDigitChars_eq_ofDigitChars_zero, Nat.mul_comm]
      exact ⟨Nat.zero_le _, Nat.le_add_right _ _⟩
    · have next : n * 10 + digitValue c = 10 * n + (c.toNat - '0'.toNat) := by
        rw [digitValue, Nat.mul_comm]
      obtain ⟨few, bound⟩ := ih (n * 10 + digitValue c)
      dsimp only
      rw [List.length_cons, Nat.ofDigitChars_cons, ← next, Nat.add_sub_add_right]
      exact ⟨Nat.succ_le_succ few, bound⟩

theorem takeDigits_scaled (cs : List Char) (n : Nat) :
    ((takeDigits n cs).1 : ℚ) * (10 : ℚ) ^ (-((takeDigits n cs).2.1 : Int)) ≤
      Nat.ofDigitChars 10 cs n * (10 : ℚ) ^ (-(cs.length : Int)) := by
  obtain ⟨few, bound⟩ := takeDigits_bound cs n
  obtain ⟨rest, length⟩ := Nat.exists_eq_add_of_le few
  have split : (10 : ℚ) ^ (-((takeDigits n cs).2.1 : Int)) =
      (10 : ℚ) ^ rest * (10 : ℚ) ^ (-(cs.length : Int)) := by
    rw [← zpow_natCast, ← zpow_add₀ (by norm_num)]
    congr 1
    omega
  rw [split, ← mul_assoc]
  refine mul_le_mul_of_nonneg_right ?_ (zpow_nonneg (by norm_num) _)
  rw [show cs.length - (takeDigits n cs).2.1 = rest by omega] at bound
  exact_mod_cast bound

/-- The digits of a number before and after the point, and its exponent, which may be negative. -/
structure Parts where
  whole : List Char
  fraction : Option (List Char)
  exponent : Option (Bool × List Char)

namespace Parts

def fractionText : Option (List Char) → List Char
  | none => []
  | some cs => '.' :: cs

def exponentText : Option (Bool × List Char) → List Char
  | none => []
  | some (down, cs) => 'e' :: (if down then '-' else '+') :: cs

def text (p : Parts) : List Char := p.whole ++ (fractionText p.fraction ++ exponentText p.exponent)

def shift (p : Parts) : Int :=
  match p.exponent with
  | none => 0
  | some (down, cs) => if down then -(Nat.ofDigitChars 10 cs 0 : Int) else Nat.ofDigitChars 10 cs 0

def value (p : Parts) : ℚ :=
  Nat.ofDigitChars 10 (p.whole ++ p.fraction.getD []) 0 *
    (10 : ℚ) ^ (p.shift - (p.fraction.getD []).length)

/-- There are digits wherever there must be some, no needless zero in front, and not too many digits
before the point. -/
structure Regular (p : Parts) : Prop where
  whole_digits : ∀ c ∈ p.whole, Text.isAsciiDigit c = true
  whole_some : p.whole ≠ []
  leading : ¬ (p.whole.head? = some '0' ∧ 1 < p.whole.length)
  short : p.whole.length ≤ 16
  fraction : ∀ cs, p.fraction = some cs → cs ≠ [] ∧ ∀ c ∈ cs, Text.isAsciiDigit c = true
  exponent : ∀ down cs, p.exponent = some (down, cs) →
    cs ≠ [] ∧ ∀ c ∈ cs, Text.isAsciiDigit c = true

end Parts

theorem takeWhile_digits {cs rest : List Char} (digits : ∀ c ∈ cs, Text.isAsciiDigit c = true)
    (stop : ∀ c ∈ rest.head?, Text.isAsciiDigit c = false) :
    (cs ++ rest).takeWhile Text.isAsciiDigit = cs ∧
      (cs ++ rest).dropWhile Text.isAsciiDigit = rest := by
  rw [List.takeWhile_append_of_pos digits, List.dropWhile_append_of_pos digits]
  cases rest with
  | nil => simp
  | cons c rest =>
    have other := stop c rfl
    simp [other]

namespace Parts

theorem exponentText_stop (exponent : Option (Bool × List Char)) :
    ∀ c ∈ (exponentText exponent).head?, Text.isAsciiDigit c = false := by
  intro c head
  cases exponent with
  | none => cases head
  | some part =>
    cases head
    decide

theorem tail_stop (fraction : Option (List Char)) (exponent : Option (Bool × List Char)) :
    ∀ c ∈ (fractionText fraction ++ exponentText exponent).head?, Text.isAsciiDigit c = false := by
  cases fraction with
  | none => exact exponentText_stop exponent
  | some cs =>
    intro c head
    cases head
    decide

theorem splitExponent_text {exponent : Option (Bool × List Char)}
    (digits : ∀ down cs, exponent = some (down, cs) → ∀ c ∈ cs, Text.isAsciiDigit c = true) :
    splitExponent (exponentText exponent) = (exponent, []) := by
  cases exponent with
  | none => rfl
  | some part =>
    obtain ⟨down, cs⟩ := part
    obtain ⟨all, nothing⟩ := takeWhile_digits (digits down cs rfl) (exponentText_stop none)
    rw [exponentText, List.append_nil] at all nothing
    cases down <;> simp [exponentText, splitExponent, splitSign, all, nothing]

theorem splitFraction_text {fraction : Option (List Char)}
    (digits : ∀ cs, fraction = some cs → ∀ c ∈ cs, Text.isAsciiDigit c = true)
    (exponent : Option (Bool × List Char)) :
    splitFraction (fractionText fraction ++ exponentText exponent) =
      (fraction, exponentText exponent) := by
  cases fraction with
  | none =>
    cases exponent with
    | none => rfl
    | some part => simp [fractionText, exponentText, splitFraction]
  | some cs =>
    obtain ⟨all, rest⟩ := takeWhile_digits (digits cs rfl) (exponentText_stop exponent)
    simp [fractionText, splitFraction, all, rest]

variable {p : Parts}

/-- A regular number is read to its end, in its parts. -/
theorem Regular.read (regular : p.Regular) (negative : Bool) :
    readNumber? negative p.text =
      some (numberValue negative p.whole p.fraction p.exponent, []) := by
  obtain ⟨all, rest⟩ := takeWhile_digits regular.whole_digits (tail_stop p.fraction p.exponent)
  have fraction := splitFraction_text (fun cs h => (regular.fraction cs h).2) p.exponent
  have exponent := splitExponent_text fun down cs h => (regular.exponent down cs h).2
  have wellFormed : ¬ (p.whole.isEmpty ∨ (p.whole.head? = some '0' ∧ 1 < p.whole.length) ∨
      p.fraction = some [] ∨ p.exponent.map (·.2) = some []) := by
    rintro (empty | leading | empty | empty)
    · exact regular.whole_some (List.isEmpty_iff.mp empty)
    · exact regular.leading leading
    · exact (regular.fraction [] empty).1 rfl
    · obtain ⟨⟨down, cs⟩, written, rfl⟩ := Option.map_eq_some_iff.mp empty
      exact (regular.exponent down [] written).1 rfl
  unfold readNumber? text
  simp only [all, rest, fraction, exponent]
  rw [if_neg wellFormed]

theorem foldl_digits (cs : List Char) (n : Nat) :
    cs.foldl (fun e c => e * 10 + digitValue c) n = Nat.ofDigitChars 10 cs n := by
  induction cs generalizing n with
  | nil => rfl
  | cons c cs ih =>
    rw [List.foldl_cons, ih, Nat.ofDigitChars_cons, digitValue, Nat.mul_comm]

theorem Regular.whole_le (regular : p.Regular) : Nat.ofDigitChars 10 p.whole 0 ≤ maxNatural := by
  have bound := ofDigitChars_lt regular.whole_digits
  have short := Nat.pow_le_pow_right (by decide : 0 < 10) regular.short
  have room : 10 ^ (16 : Nat) ≤ maxNatural := by decide
  omega

section Value
variable (negative : Bool) {n count : Nat} (whole : takeDigits 0 p.whole = (n, count, []))
include whole

theorem numberValue_integer (noFraction : p.fraction = none) (noExponent : p.exponent = none) :
    ∃ v, numberValue negative p.whole p.fraction p.exponent = some v := by
  unfold numberValue
  rw [whole, noFraction, noExponent]
  dsimp only
  split
  · split <;> exact ⟨_, rfl⟩
  · exact ⟨_, rfl⟩

theorem numberValue_fraction {cs : List Char} (fraction : p.fraction = some cs)
    (noExponent : p.exponent = none) :
    numberValue negative p.whole p.fraction p.exponent =
      (scaled? negative (takeDigits n (p.fraction.getD [])).1
        (p.shift - (takeDigits n (p.fraction.getD [])).2.1)).map .real := by
  unfold numberValue shift
  rw [whole, fraction, noExponent]
  rfl

theorem numberValue_exponent {down : Bool} {cs : List Char}
    (exponent : p.exponent = some (down, cs)) :
    numberValue negative p.whole p.fraction p.exponent =
      if maxExponentPart < Nat.ofDigitChars 10 cs 0 then
        if (takeDigits n (p.fraction.getD [])).1 ≠ 0 ∧ ¬ down then none
        else some (.real (Double.signedZero negative))
      else
        (scaled? negative (takeDigits n (p.fraction.getD [])).1
          (p.shift - (takeDigits n (p.fraction.getD [])).2.1)).map .real := by
  have order : ∀ taken : Nat, (if down then 0 - (taken : Int) - (Nat.ofDigitChars 10 cs 0 : Nat)
      else 0 - (taken : Int) + (Nat.ofDigitChars 10 cs 0 : Nat)) = p.shift - taken := by
    intro taken
    unfold shift
    rw [exponent]
    dsimp only
    split <;> omega
  rw [← order]
  unfold numberValue
  rw [whole, exponent]
  cases p.fraction <;> simp only [foldl_digits, List.length_nil, Nat.cast_zero]

/-- A number without a huge exponent stands for something if its digits, as far as they are taken,
do. -/
theorem numberValue_of_scaled (moderate : p.shift ≤ maxExponentPart) {d : Double}
    (scaled : scaled? negative (takeDigits n (p.fraction.getD [])).1
      (p.shift - (takeDigits n (p.fraction.getD [])).2.1) = some d) :
    ∃ v, numberValue negative p.whole p.fraction p.exponent = some v := by
  cases exponent : p.exponent with
  | none =>
    rw [← exponent]
    cases fraction : p.fraction with
    | none => exact fraction ▸ numberValue_integer negative whole fraction exponent
    | some cs =>
      refine ⟨.real d, ?_⟩
      rw [← fraction, numberValue_fraction negative whole fraction exponent, scaled]
      rfl
  | some part =>
    obtain ⟨down, cs⟩ := part
    rw [← exponent, numberValue_exponent negative whole exponent, scaled]
    cases down with
    | true =>
      rw [if_neg (show ¬ (_ ∧ ¬ true = true) by simp)]
      split <;> exact ⟨_, rfl⟩
    | false =>
      rw [shift, exponent] at moderate
      have small : ¬ maxExponentPart < Nat.ofDigitChars 10 cs 0 := by
        dsimp only at moderate
        rw [if_neg Bool.false_ne_true] at moderate
        omega
      rw [if_neg small]
      exact ⟨_, rfl⟩

end Value

/-- A regular number within reach, with no huge exponent, stands for a number. -/
theorem Regular.number (regular : p.Regular) (negative : Bool)
    (moderate : p.shift ≤ maxExponentPart) (within : p.value ≤ reach) :
    ∃ n, numberValue negative p.whole p.fraction p.exponent = some n := by
  have digits := takeDigits_scaled (p.fraction.getD []) (Nat.ofDigitChars 10 p.whole 0)
  have scaled : (takeDigits (Nat.ofDigitChars 10 p.whole 0) (p.fraction.getD [])).1 *
      (10 : ℚ) ^ (p.shift -
        (takeDigits (Nat.ofDigitChars 10 p.whole 0) (p.fraction.getD [])).2.1) ≤ p.value := by
    rw [value, Nat.ofDigitChars_append, sub_eq_neg_add, sub_eq_neg_add,
      zpow_add₀ (by norm_num : (10 : ℚ) ≠ 0), zpow_add₀ (by norm_num : (10 : ℚ) ≠ 0),
      ← mul_assoc, ← mul_assoc]
    exact mul_le_mul_of_nonneg_right digits (zpow_nonneg (by norm_num) _)
  obtain ⟨d, read⟩ := scaled_of_reach negative (takeDigits_le (p.fraction.getD []) regular.whole_le)
    (scaled.trans within)
  exact numberValue_of_scaled negative (takeDigits_all p.whole 0 regular.whole_le) moderate read

end Parts

end FixGrader.Json.Document
