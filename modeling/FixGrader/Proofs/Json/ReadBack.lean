import FixGrader.Proofs.Json.Numeral
import Mathlib.Data.List.TakeWhile
/-!
# Numbers that are read back

Every integer in the range of the reader is read back from its text. A double is read back if its
text alone, as a whole document, is; it may stand anywhere then.
-/
namespace FixGrader.Json

namespace Document

theorem isAsciiDigit_of_isDigit {c : Char} (h : c.isDigit = true) : Text.isAsciiDigit c = true := by
  simpa [Text.isAsciiDigit, Char.isDigit, Char.le_def] using h

theorem toDigits_digits (n : Nat) : ∀ c ∈ Nat.toDigits 10 n, Text.isAsciiDigit c = true :=
  fun _ listed => isAsciiDigit_of_isDigit
    (Nat.isDigit_of_mem_toDigits (by decide) (by decide) listed)

/-- The digits of a positive number do not begin with a zero. -/
theorem toDigits_leading (n : Nat) (positive : 0 < n) : (Nat.toDigits 10 n).head? ≠ some '0' := by
  induction n using Nat.strongRecOn with
  | ind n ih =>
    rcases Nat.lt_or_ge n 10 with small | large
    · have digits : ∀ d < 10, 0 < d → [Nat.digitChar d].head? ≠ some '0' := by decide
      rw [Nat.toDigits_of_lt_base small]
      exact digits n small positive
    · have below := ih (n / 10) (by omega) (by omega)
      obtain ⟨c, cs, same⟩ := List.exists_cons_of_ne_nil (Nat.toDigits_ne_nil (n := n / 10) (b := 10))
      rw [Nat.toDigits_of_base_le (by decide) large, same]
      rw [same] at below
      exact below

/-- The digits of a number do not begin with a zero, but for the one of zero itself. -/
theorem toDigits_head (n : Nat) :
    ¬ ((Nat.toDigits 10 n).head? = some '0' ∧ 1 < (Nat.toDigits 10 n).length) := by
  rintro ⟨zero, long⟩
  rcases Nat.eq_zero_or_pos n with rfl | positive
  · simp at long
  · exact toDigits_leading n positive zero

theorem le_ofDigitChars (cs : List Char) (n : Nat) : n ≤ Nat.ofDigitChars 10 cs n := by
  induction cs generalizing n with
  | nil => simp
  | cons c cs ih =>
    rw [Nat.ofDigitChars_cons]
    have := ih (10 * n + (c.toNat - '0'.toNat))
    omega

/-- Digits are all taken as long as their number is not too large. -/
theorem takeDigits_all (cs : List Char) (n : Nat) (h : Nat.ofDigitChars 10 cs n ≤ maxNatural) :
    takeDigits n cs = (Nat.ofDigitChars 10 cs n, cs.length, []) := by
  induction cs generalizing n with
  | nil => simp [takeDigits]
  | cons c cs ih =>
    have next : n * 10 + digitValue c = 10 * n + (c.toNat - '0'.toNat) := by
      rw [digitValue, Nat.mul_comm]
    rw [Nat.ofDigitChars_cons, ← next] at h ⊢
    have fits : overflows n (digitValue c) = false := by
      have := le_ofDigitChars cs (n * 10 + digitValue c)
      simp only [overflows, decide_eq_false_iff_not]
      omega
    rw [takeDigits, fits, ih _ h]
    simp

theorem takeDigits_le (cs : List Char) {n : Nat} (h : n ≤ maxNatural) :
    (takeDigits n cs).1 ≤ maxNatural := by
  induction cs generalizing n with
  | nil => exact h
  | cons c cs ih =>
    rw [takeDigits]
    split
    · exact h
    · rename_i fits
      simp only [overflows, decide_eq_true_eq] at fits
      exact ih (by omega)

theorem readNumber_toDigits (negative : Bool) (n : Nat) :
    readNumber? negative (Nat.toDigits 10 n) =
      some (numberValue negative (Nat.toDigits 10 n) none none, []) := by
  have digits := toDigits_digits n
  have whole : (Nat.toDigits 10 n).takeWhile Text.isAsciiDigit = Nat.toDigits 10 n :=
    List.takeWhile_eq_self_iff.mpr digits
  have rest : (Nat.toDigits 10 n).dropWhile Text.isAsciiDigit = [] :=
    List.dropWhile_eq_nil_iff.mpr digits
  have filled : (Nat.toDigits 10 n).isEmpty = false := by
    simp [Nat.toDigits_ne_nil]
  unfold readNumber?
  simp only [whole, rest, filled, splitFraction, splitExponent, toDigits_head n]
  simp

theorem readBack_int {i : Int} (low : -2 ^ (63 : Nat) ≤ i) (high : i < 2 ^ (64 : Nat)) :
    ReadBack (.int i) := by
  have text : (Number.int i).text = i.repr := Int.toString_eq_repr
  by_cases sign : 0 ≤ i
  · refine ⟨false, Nat.toDigits 10 i.toNat, ?_, ?_⟩
    · rw [text, Int.repr_eq_if, if_pos sign, Nat.toList_repr]
      rfl
    · have value := takeDigits_all (Nat.toDigits 10 i.toNat) 0 (by simp [maxNatural]; omega)
      have same : (i.toNat : Int) = i := Int.toNat_of_nonneg sign
      rw [readNumber_toDigits, numberValue, value, Nat.ofDigitChars_ten_toDigits]
      simp only [Bool.false_eq_true, if_false, same]
  · refine ⟨true, Nat.toDigits 10 (-i).toNat, ?_, ?_⟩
    · rw [text, Int.repr_eq_if, if_neg sign, String.toList_append, Nat.toList_repr]
      rfl
    · have value := takeDigits_all (Nat.toDigits 10 (-i).toNat) 0 (by simp [maxNatural]; omega)
      have range : ¬ ((-i).toNat = 0 ∨ 2 ^ 63 < (-i).toNat) := by omega
      have same : (-((-i).toNat : Int)) = i := by omega
      rw [readNumber_toDigits, numberValue, value, Nat.ofDigitChars_ten_toDigits]
      simp only [if_true, if_neg range, same]

def Numeral (s : String) : Prop := ∀ c ∈ s.toList, isNumeral c = true

instance (s : String) : Decidable (Numeral s) := List.decidableBAll _ s.toList

theorem Numeral.append {s t : String} (hs : Numeral s) (ht : Numeral t) : Numeral (s ++ t) := by
  intro c listed
  rw [String.toList_append, List.mem_append] at listed
  rcases listed with left | right
  · exact hs c left
  · exact ht c right

theorem Numeral.ofList {cs : List Char} (h : ∀ c ∈ cs, isNumeral c = true) :
    Numeral (String.ofList cs) := by
  intro c listed
  rw [String.toList_ofList] at listed
  exact h c listed

theorem isNumeral_of_digit {c : Char} (h : Text.isAsciiDigit c = true) : isNumeral c = true := by
  simp [isNumeral, h]

theorem numeral_nat (n : Nat) : Numeral (toString n) := by
  intro c listed
  change c ∈ n.repr.toList at listed
  rw [Nat.toList_repr] at listed
  exact isNumeral_of_digit (toDigits_digits n c listed)

theorem numeral_zeros (n : Nat) : Numeral (String.ofList (List.replicate n '0')) := by
  refine .ofList fun c listed => ?_
  rw [(List.mem_replicate.mp listed).2]
  decide

theorem numeral_decimal (d : Double.Decimal) : Numeral d.text := by
  have digits := numeral_nat d.digits
  have point : Numeral "." := by decide
  have exponent : ∀ e : Int, Numeral ((if e < 0 then "e-" else "e+") ++ toString e.natAbs) := by
    intro e
    refine Numeral.append ?_ (numeral_nat _)
    split <;> decide
  unfold Double.Decimal.text
  dsimp only
  split
  · exact (digits.append (numeral_zeros _)).append (by decide)
  split
  · refine ((Numeral.ofList ?_).append point).append (.ofList ?_)
    · exact fun c listed => digits c (List.mem_of_mem_take listed)
    · exact fun c listed => digits c (List.mem_of_mem_drop listed)
  split
  · exact (Numeral.append (by decide) (numeral_zeros _)).append digits
  split
  · exact exponent _
  · rename_i c same
    refine Numeral.append ?_ (exponent _)
    intro c' listed
    exact digits c' (by rw [same]; simpa using listed)
  · rename_i c cs _ same
    have listed : ∀ c' ∈ c :: cs, isNumeral c' = true := fun c' h => digits c' (same ▸ h)
    refine ((Numeral.append ?_ point).append (.ofList ?_)).append (exponent _)
    · intro c' h
      exact listed c' (by simp_all)
    · exact fun c' h => listed c' (List.mem_cons_of_mem c h)

theorem numeral_finite (negative : Bool) (m : Nat) (e : Int) :
    Numeral (Double.finite negative m e).text := by
  have magnitude : Numeral (if m = 0 then "0.0" else (Double.shortest m e).text) := by
    split
    · decide
    · exact numeral_decimal _
  unfold Double.text
  dsimp only
  split
  · exact Numeral.append (by decide) magnitude
  · exact magnitude

theorem isGap_of_numeral {c : Char} (h : isNumeral c = true) : isGap c = false := by
  cases gap : isGap c with
  | false => rfl
  | true =>
    simp only [isGap, Bool.or_eq_true, decide_eq_true_eq] at gap
    rcases gap with ((rfl | rfl) | rfl) | rfl <;> cases h

/-- What is read where a numeral begins is a number. -/
theorem readValue_numeral {fuel : Nat} {c : Char} (h : isNumeral c = true) {cs rest : List Char}
    {document : Document} (read : readValue (fuel + 1) (c :: cs) = .ok (document, rest)) :
    ∃ negative body n, c :: cs = (if negative then '-' :: body else body) ∧
      readNumber? negative body = some (n, rest) ∧ document = .number n := by
  rw [readValue] at read
  dsimp only at read
  have solid := skipGap_append (List.forall_mem_nil _) (isGap_of_numeral h) cs
  rw [List.nil_append] at solid
  rw [solid] at read
  by_cases minus : c = '-'
  · subst minus
    cases number : readNumber? true cs with
    | none => simp [number, bind, Except.bind] at read
    | some found =>
      simp only [number, bind, Except.bind, pure, Except.pure] at read
      cases read
      exact ⟨true, cs, found.1, rfl, number, rfl⟩
  · split at read
    any_goals
      rename_i same
      cases same
      try cases h
      try contradiction
    cases number : readNumber? false (c :: cs) with
    | none => simp [number, bind, Except.bind] at read
    | some found =>
      simp only [number, bind, Except.bind, pure, Except.pure] at read
      cases read
      exact ⟨false, c :: cs, found.1, rfl, number, rfl⟩

end Document

open Document

/-- What the reading of a text that stands for a value comes to. -/
theorem ofText_ok {text : String} {j : Json} (h : ofText text = .ok j) :
    ∃ document rest, readValue (2 * text.toList.length + 2) text.toList = .ok (document, rest) ∧
      skipGap rest = [] ∧ valueAt maxDepth document = some j := by
  unfold ofText Decoder.ofText at h
  split at h
  · cases h
  · rename_i document parsed
    split at h
    · rename_i value decoded
      cases h
      unfold Document.ofText at parsed
      dsimp only at parsed
      split at parsed
      · cases parsed
      · rename_i document' rest read
        split at parsed
        · rename_i gap
          cases parsed
          exact ⟨document, rest, read, gap, decoded⟩
        · cases parsed
    · cases h

/-- A number whose text, as a document of its own, stands for it. -/
def Number.Lossless (n : Number) : Prop := ofText n.text = .ok (.number n)

instance (n : Number) : Decidable n.Lossless :=
  match read : ofText n.text with
  | .ok (.number n') => decidable_of_iff (n' = n) (by simp [Number.Lossless, read])
  | .ok .null | .ok (.bool _) | .ok (.string _) | .ok (.array _) | .ok (.object _) | .error _ =>
    isFalse (by simp [Number.Lossless, read])

theorem skipGap_numeral {cs : List Char} (h : ∀ c ∈ cs, isNumeral c = true) : skipGap cs = cs := by
  cases cs with
  | nil => rfl
  | cons c cs => exact skipGap_append (List.forall_mem_nil _) (isGap_of_numeral (h c (by simp))) cs

theorem Number.Lossless.readBack {d : Double} (lossless : Number.Lossless (.real d)) :
    ReadBack (.real d) := by
  obtain ⟨document, rest, read, gap, value⟩ := ofText_ok lossless
  cases d with
  | nan => cases read
  | infinite negative => cases negative <;> cases read
  | finite negative m e =>
    have numeral := numeral_finite negative m e
    change readValue _ (Double.finite negative m e).text.toList = _ at read
    rw [ReadBack, ReadsAs, Number.text]
    revert numeral read
    unfold Numeral
    generalize (Double.finite negative m e).text.toList = cs
    intro numeral read
    cases cs with
    | nil => cases read
    | cons c cs =>
      obtain ⟨sign, body, n, split, number, rfl⟩ := readValue_numeral (numeral c (by simp)) read
      have shorter : rest <:+ c :: cs := by
        have inner := readNumber_suffix number
        rw [split]
        cases sign with
        | true => exact inner.trans (List.suffix_cons _ _)
        | false => exact inner
      have nothing : rest = [] := by
        rw [← gap]
        exact (skipGap_numeral fun c' listed => numeral c' (shorter.mem listed)).symm
      cases n with
      | none => cases value
      | some n =>
        cases value
        exact ⟨sign, body, split, nothing ▸ number⟩

end FixGrader.Json
