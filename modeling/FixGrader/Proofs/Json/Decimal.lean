import FixGrader.Number.Shortest
import FixGrader.Proofs.Json.Written
/-!
# Decimals that are written

A decimal is written positionally or with an exponent. However it is written, the text has regular
parts that stand for this decimal, so that it is read if it is within reach.
-/
namespace FixGrader.Json.Document
open Double

def decimalValue (d : Decimal) : ℚ := d.digits * (10 : ℚ) ^ d.exponent

/-- Parts that are the text of a decimal and stand for it. -/
structure Parts.Writes (p : Parts) (d : Decimal) : Prop where
  regular : p.Regular
  text : d.text.toList = p.text
  value : p.value = decimalValue d
  moderate : 0 < p.shift → (10 : ℚ) ^ p.shift ≤ decimalValue d

def numeral (d : Decimal) : List Char := Nat.toDigits 10 d.digits

theorem numeral_digits (d : Decimal) : ∀ c ∈ numeral d, Text.isAsciiDigit c = true :=
  toDigits_digits d.digits

theorem numeral_value (d : Decimal) : Nat.ofDigitChars 10 (numeral d) 0 = d.digits :=
  Nat.ofDigitChars_ten_toDigits

theorem numeral_pos (d : Decimal) : 0 < (numeral d).length :=
  List.length_pos_of_ne_nil Nat.toDigits_ne_nil

theorem numeral_length (d : Decimal) : (toString d.digits).length = (numeral d).length := by
  rw [← String.length_toList]
  exact congrArg List.length Nat.toList_repr

def point (d : Decimal) : Int := (numeral d).length + d.exponent

theorem point_eq (d : Decimal) : point d = (numeral d).length + d.exponent := rfl

theorem point_text (d : Decimal) : ((toString d.digits).length : Int) + d.exponent = point d := by
  rw [numeral_length, point_eq]

/-- The first digit stands for a part of the number. -/
theorem numeral_le {d : Decimal} (positive : 0 < d.digits) :
    10 ^ ((numeral d).length - 1) ≤ d.digits := by
  rcases Nat.eq_zero_or_pos ((numeral d).length - 1) with one | more
  · rw [one]
    exact positive
  · by_contra below
    have := (Nat.length_toDigits_le_iff (b := 10) (n := d.digits) (by decide) more).mpr (by omega)
    change (numeral d).length ≤ _ at this
    omega

theorem zeros_digits (k : Nat) : ∀ c ∈ List.replicate k '0', Text.isAsciiDigit c = true := by
  intro c listed
  rw [(List.mem_replicate.mp listed).2]
  decide

theorem digits_append {cs ds : List Char} (left : ∀ c ∈ cs, Text.isAsciiDigit c = true)
    (right : ∀ c ∈ ds, Text.isAsciiDigit c = true) :
    ∀ c ∈ cs ++ ds, Text.isAsciiDigit c = true := by
  intro c listed
  rcases List.mem_append.mp listed with listed | listed
  · exact left c listed
  · exact right c listed

theorem take_digits (d : Decimal) (k : Nat) :
    ∀ c ∈ (numeral d).take k, Text.isAsciiDigit c = true :=
  fun c listed => numeral_digits d c (List.mem_of_mem_take listed)

theorem drop_digits (d : Decimal) (k : Nat) :
    ∀ c ∈ (numeral d).drop k, Text.isAsciiDigit c = true :=
  fun c listed => numeral_digits d c (List.mem_of_mem_drop listed)

/-- No zero is in front, whatever comes behind. -/
theorem numeral_leading {d : Decimal} (positive : 0 < d.digits) {cs : List Char}
    (front : cs.head? = (numeral d).head?) : ¬ (cs.head? = some '0' ∧ 1 < cs.length) := by
  rintro ⟨zero, -⟩
  exact toDigits_leading d.digits positive (front.symm.trans zero)

theorem Parts.value_eq {p : Parts} {d : Decimal} (j : Nat)
    (digits : Nat.ofDigitChars 10 (p.whole ++ p.fraction.getD []) 0 = 10 ^ j * d.digits)
    (place : p.shift - (p.fraction.getD []).length = d.exponent - j) : p.value = decimalValue d := by
  rw [value, decimalValue, digits, place, zpow_sub₀ (by norm_num : (10 : ℚ) ≠ 0), zpow_natCast]
  push_cast
  field_simp

section Ways
variable {d : Decimal}

/-- An integer, with zeros up to the point. -/
theorem writes_integer (positive : 0 < d.digits) (whole : 0 ≤ d.exponent) (short : point d ≤ 16) :
    (⟨numeral d ++ List.replicate d.exponent.toNat '0', some ['0'], none⟩ : Parts).Writes d where
  regular := {
    whole_digits := digits_append (numeral_digits d) (zeros_digits _)
    whole_some := by simp [← List.length_pos_iff_ne_nil, numeral_pos]
    leading := by
      refine numeral_leading positive ?_
      rw [List.head?_append_of_ne_nil _ (List.length_pos_iff_ne_nil.mp (numeral_pos d))]
    short := by
      rw [point_eq] at short
      rw [List.length_append, List.length_replicate]
      omega
    fraction := by
      rintro cs ⟨⟩
      exact ⟨by simp, zeros_digits 1⟩
    exponent := by
      rintro down cs ⟨⟩ }
  text := by
    rw [Decimal.text, point_text]
    dsimp only
    rw [if_pos ⟨whole, short⟩]
    simp [Parts.text, Parts.fractionText, Parts.exponentText, numeral]
  value := by
    refine Parts.value_eq (d.exponent.toNat + 1) ?_ ?_
    · have zero : ['0'] = List.replicate 1 '0' := rfl
      rw [Option.getD_some, Nat.ofDigitChars_append, Nat.ofDigitChars_append, numeral_value, zero,
        Nat.ofDigitChars_replicate_zero, Nat.ofDigitChars_replicate_zero, ← Nat.mul_assoc,
        ← Nat.pow_add, Nat.add_comm]
    · simp [Parts.shift]
      omega
  moderate := fun up => absurd up (lt_irrefl 0)

/-- A number with a point among its digits. -/
theorem writes_pointed (positive : 0 < d.digits) (broken : d.exponent < 0)
    (inside : 0 < point d) (short : point d ≤ 16) :
    (⟨(numeral d).take (point d).toNat, some ((numeral d).drop (point d).toNat), none⟩ :
      Parts).Writes d where
  regular := {
    whole_digits := take_digits d _
    whole_some := by
      have := numeral_pos d
      rw [← List.length_pos_iff_ne_nil, List.length_take]
      omega
    leading := by
      refine numeral_leading positive ?_
      rw [List.head?_take, if_neg (by omega)]
    short := by
      rw [List.length_take]
      omega
    fraction := by
      rintro cs ⟨⟩
      refine ⟨?_, drop_digits d _⟩
      rw [point_eq] at inside
      rw [← List.length_pos_iff_ne_nil, List.length_drop, point_eq]
      omega
    exponent := by
      rintro down cs ⟨⟩ }
  text := by
    rw [Decimal.text, point_text]
    dsimp only
    rw [if_neg (by omega), if_pos ⟨inside, short⟩]
    simp [Parts.text, Parts.fractionText, Parts.exponentText, numeral]
  value := by
    refine Parts.value_eq 0 ?_ ?_
    · rw [Option.getD_some, List.take_append_drop, numeral_value, Nat.pow_zero, Nat.one_mul]
    · rw [point_eq] at inside
      simp only [Parts.shift, Option.getD_some, List.length_drop, point_eq]
      omega
  moderate := fun up => absurd up (lt_irrefl 0)

/-- A number below one, with zeros behind the point. -/
theorem writes_small (near : -5 < point d) (below : point d ≤ 0) :
    (⟨['0'], some (List.replicate (-point d).toNat '0' ++ numeral d), none⟩ : Parts).Writes d where
  regular := {
    whole_digits := zeros_digits 1
    whole_some := by simp
    leading := by simp
    short := by simp
    fraction := by
      rintro cs ⟨⟩
      refine ⟨?_, digits_append (zeros_digits _) (numeral_digits d)⟩
      simp [← List.length_pos_iff_ne_nil, numeral_pos]
    exponent := by
      rintro down cs ⟨⟩ }
  text := by
    have digits := numeral_pos d
    have place := point_eq d
    rw [Decimal.text, point_text]
    dsimp only
    rw [if_neg (by omega), if_neg (by omega), if_pos ⟨near, below⟩]
    simp [Parts.text, Parts.fractionText, Parts.exponentText, numeral]
  value := by
    refine Parts.value_eq 0 ?_ ?_
    · have zero : ['0'] = List.replicate 1 '0' := rfl
      rw [Option.getD_some, Nat.ofDigitChars_append, Nat.ofDigitChars_append, zero,
        Nat.ofDigitChars_replicate_zero, Nat.ofDigitChars_replicate_zero, Nat.mul_zero,
        numeral_value, Nat.pow_zero, Nat.one_mul]
    · rw [point_eq] at below
      simp only [Parts.shift, Option.getD_some, List.length_append, List.length_replicate, point_eq]
      omega
  moderate := fun up => absurd up (lt_irrefl 0)

/-- The parts of a number with one digit before the point, the others behind it if there are any, and
an exponent. -/
def scientific (c : Char) (cs : List Char) (e : Int) : Parts :=
  ⟨[c], if cs = [] then none else some cs, some (decide (e < 0), Nat.toDigits 10 e.natAbs)⟩

theorem scientific_fraction (c : Char) (cs : List Char) (e : Int) :
    (scientific c cs e).fraction.getD [] = cs := by
  unfold scientific
  split
  · rename_i none
    rw [none]
    rfl
  · rfl

theorem scientific_shift (c : Char) (cs : List Char) (e : Int) : (scientific c cs e).shift = e := by
  rw [scientific, Parts.shift]
  dsimp only
  rw [Nat.ofDigitChars_ten_toDigits]
  simp only [decide_eq_true_eq]
  split <;> omega

theorem scientific_regular {c : Char} {cs : List Char}
    (digits : ∀ c' ∈ c :: cs, Text.isAsciiDigit c' = true) (e : Int) :
    (scientific c cs e).Regular where
  whole_digits := by
    intro c' listed
    rw [List.mem_singleton.mp listed]
    exact digits c List.mem_cons_self
  whole_some := by simp [scientific]
  leading := by simp [scientific]
  short := by simp [scientific]
  fraction := by
    intro ds written
    unfold scientific at written
    dsimp only at written
    split at written
    · cases written
    · rename_i more
      cases written
      exact ⟨more, fun c' listed => digits c' (List.mem_cons_of_mem c listed)⟩
  exponent := by
    rintro down ds ⟨⟩
    exact ⟨Nat.toDigits_ne_nil, toDigits_digits e.natAbs⟩

theorem writes_scientific (positive : 0 < d.digits)
    (notInteger : ¬ (0 ≤ d.exponent ∧ point d ≤ 16))
    (notPointed : ¬ (0 < point d ∧ point d ≤ 16))
    (notSmall : ¬ (-5 < point d ∧ point d ≤ 0)) {c : Char} {cs : List Char}
    (same : numeral d = c :: cs) : (scientific c cs (point d - 1)).Writes d where
  regular := scientific_regular (same ▸ numeral_digits d) _
  text := by
    have list : (toString d.digits).toList = c :: cs := same ▸ Nat.toList_repr
    rw [Decimal.text, point_text]
    dsimp only
    rw [if_neg notInteger, if_neg notPointed, if_neg notSmall, list]
    generalize point d - 1 = e
    by_cases down : e < 0 <;> cases cs <;>
      simp [scientific, Parts.text, Parts.fractionText, Parts.exponentText, down]
  value := by
    refine Parts.value_eq 0 ?_ ?_
    · rw [scientific_fraction, Nat.pow_zero, Nat.one_mul, ← numeral_value, same]
      rfl
    · rw [scientific_fraction, scientific_shift, point_eq, same, List.length_cons]
      omega
  moderate := by
    intro up
    have digits := numeral_pos d
    rw [scientific_shift]
    have split : point d - 1 = ((numeral d).length - 1 : Nat) + d.exponent := by
      rw [point_eq]
      omega
    rw [split, zpow_add₀ (by norm_num : (10 : ℚ) ≠ 0), zpow_natCast, decimalValue]
    refine mul_le_mul_of_nonneg_right ?_ (zpow_nonneg (by norm_num) _)
    exact_mod_cast numeral_le positive

/-- Every decimal but zero is written in regular parts. -/
theorem writes (positive : 0 < d.digits) : ∃ p : Parts, p.Writes d := by
  by_cases integer : 0 ≤ d.exponent ∧ point d ≤ 16
  · exact ⟨_, writes_integer positive integer.1 integer.2⟩
  by_cases pointed : 0 < point d ∧ point d ≤ 16
  · exact ⟨_, writes_pointed positive (by omega) pointed.1 pointed.2⟩
  by_cases small : -5 < point d ∧ point d ≤ 0
  · exact ⟨_, writes_small small.1 small.2⟩
  · obtain ⟨c, cs, same⟩ := List.exists_cons_of_length_pos (numeral_pos d)
    exact ⟨_, writes_scientific positive integer pointed small same⟩

/-- A decimal within reach is read off its text. -/
theorem readNumber_decimal (negative : Bool) (positive : 0 < d.digits)
    (within : decimalValue d ≤ reach) :
    ∃ n, readNumber? negative d.text.toList = some (some n, []) := by
  obtain ⟨p, regular, text, value, moderate⟩ := writes positive
  have notHuge : p.shift ≤ maxExponentPart := by
    rcases le_or_gt p.shift 0 with down | up
    · exact down.trans (Int.natCast_nonneg _)
    · have inRange := exponent_of_reach ((moderate up).trans within)
      unfold maxExponentPart
      omega
  obtain ⟨n, number⟩ := regular.number negative notHuge (value ▸ within)
  exact ⟨n, by rw [text, regular.read, number]⟩

end Ways

end FixGrader.Json.Document
