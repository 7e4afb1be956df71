import FixGrader.Json.Decoder
/-!
# Numerals

How far a number reaches: a reader of numbers stops where no character of a numeral follows, and
what comes after that is nothing to it. Integers are read back from their text.
-/
namespace FixGrader.Json.Document

def isNumeral (c : Char) : Bool :=
  Text.isAsciiDigit c || c == '.' || c == 'e' || c == 'E' || c == '+' || c == '-'

/-- A text that goes on with no numeral. -/
def Apart (rest : List Char) : Prop := ∀ c ∈ rest.head?, isNumeral c = false

theorem apart_cons {c : Char} (h : isNumeral c = false) (cs : List Char) : Apart (c :: cs) := by
  intro c' head
  cases head
  exact h

variable {rest : List Char}

theorem takeWhile_apart (apart : Apart rest) (cs : List Char) :
    (cs ++ rest).takeWhile Text.isAsciiDigit = cs.takeWhile Text.isAsciiDigit := by
  induction cs with
  | nil =>
    cases rest with
    | nil => rfl
    | cons c rest =>
      have other := apart c rfl
      simp only [isNumeral, Bool.or_eq_false_iff] at other
      simp [other]
  | cons c cs ih =>
    rw [List.cons_append, List.takeWhile_cons, List.takeWhile_cons, ih]

theorem dropWhile_apart (apart : Apart rest) (cs : List Char) :
    (cs ++ rest).dropWhile Text.isAsciiDigit = cs.dropWhile Text.isAsciiDigit ++ rest := by
  induction cs with
  | nil =>
    cases rest with
    | nil => rfl
    | cons c rest =>
      have other := apart c rfl
      simp only [isNumeral, Bool.or_eq_false_iff] at other
      simp [other]
  | cons c cs ih =>
    rw [List.cons_append, List.dropWhile_cons, List.dropWhile_cons, ih]
    split <;> rfl

theorem splitFraction_append (apart : Apart rest) (cs : List Char) :
    splitFraction (cs ++ rest) = ((splitFraction cs).1, (splitFraction cs).2 ++ rest) := by
  cases cs with
  | nil =>
    cases rest with
    | nil => rfl
    | cons c rest =>
      have other := apart c rfl
      have unlike : c ≠ '.' := by
        rintro rfl
        cases other
      simp [splitFraction, unlike]
  | cons c cs =>
    by_cases point : c = '.'
    · subst point
      simp only [List.cons_append, splitFraction, takeWhile_apart apart, dropWhile_apart apart]
    · simp [splitFraction, point]

theorem splitSign_append (apart : Apart rest) (cs : List Char) :
    splitSign (cs ++ rest) = ((splitSign cs).1, (splitSign cs).2 ++ rest) := by
  cases cs with
  | nil =>
    cases rest with
    | nil => rfl
    | cons c rest =>
      have other := apart c rfl
      have plus : c ≠ '+' := by
        rintro rfl
        cases other
      have minus : c ≠ '-' := by
        rintro rfl
        cases other
      simp [splitSign, plus, minus]
  | cons c cs =>
    by_cases plus : c = '+'
    · subst plus
      rfl
    by_cases minus : c = '-'
    · subst minus
      rfl
    simp [splitSign, plus, minus]

theorem splitExponent_append (apart : Apart rest) (cs : List Char) :
    splitExponent (cs ++ rest) = ((splitExponent cs).1, (splitExponent cs).2 ++ rest) := by
  cases cs with
  | nil =>
    cases rest with
    | nil => rfl
    | cons c rest =>
      have other := apart c rfl
      have unlike : ¬ (c = 'e' ∨ c = 'E') := by
        rintro (rfl | rfl) <;> cases other
      simp [splitExponent, unlike]
  | cons c cs =>
    rw [List.cons_append, splitExponent, splitExponent]
    split
    · simp only [splitSign_append apart, takeWhile_apart apart, dropWhile_apart apart]
    · rfl

/-- What stands behind a numeral is nothing to its number. -/
theorem readNumber_append (apart : Apart rest) (negative : Bool) (cs : List Char) :
    readNumber? negative (cs ++ rest) =
      (readNumber? negative cs).map fun read => (read.1, read.2 ++ rest) := by
  unfold readNumber?
  simp only [takeWhile_apart apart, dropWhile_apart apart, splitFraction_append apart,
    splitExponent_append apart]
  split <;> rfl

theorem splitFraction_suffix (cs : List Char) : (splitFraction cs).2 <:+ cs := by
  cases cs with
  | nil => exact List.suffix_rfl
  | cons c cs =>
    by_cases point : c = '.'
    · subst point
      exact (List.dropWhile_suffix _).trans (List.suffix_cons _ _)
    · simp [splitFraction, point]

theorem splitSign_suffix (cs : List Char) : (splitSign cs).2 <:+ cs := by
  unfold splitSign
  split
  · exact List.suffix_cons _ _
  · exact List.suffix_cons _ _
  · exact List.suffix_rfl

theorem splitExponent_suffix (cs : List Char) : (splitExponent cs).2 <:+ cs := by
  cases cs with
  | nil => exact List.suffix_rfl
  | cons c cs =>
    rw [splitExponent]
    split
    · exact ((List.dropWhile_suffix _).trans (splitSign_suffix cs)).trans (List.suffix_cons _ _)
    · exact List.suffix_rfl

theorem readNumber_suffix {negative : Bool} {cs rest : List Char} {value : Option Number}
    (h : readNumber? negative cs = some (value, rest)) : rest <:+ cs := by
  unfold readNumber? at h
  dsimp only at h
  split at h
  · cases h
  · obtain ⟨-, rfl⟩ := Prod.mk.inj (Option.some.inj h)
    exact ((splitExponent_suffix _).trans (splitFraction_suffix _)).trans (List.dropWhile_suffix _)

theorem readNumber_head {negative : Bool} {cs : List Char} {read : Option Number × List Char}
    (h : readNumber? negative cs = some read) :
    ∃ c cs', cs = c :: cs' ∧ Text.isAsciiDigit c = true := by
  unfold readNumber? at h
  dsimp only at h
  split at h
  · cases h
  · rename_i fits
    cases cs with
    | nil => simp at fits
    | cons c cs' =>
      cases digit : Text.isAsciiDigit c with
      | true => exact ⟨c, cs', rfl, digit⟩
      | false => simp [digit] at fits

/-- The text of a number, behind the sign, is read as some number and to its end. -/
def ReadsAs (n n' : Number) : Prop := ∃ negative body,
  n.text.toList = (if negative then '-' :: body else body) ∧
    readNumber? negative body = some (some n', [])

/-- A number whose text is read as this number. -/
def ReadBack (n : Number) : Prop := ReadsAs n n

theorem skipGap_append {gap : List Char} (blank : ∀ c ∈ gap, isGap c = true) {c : Char}
    (solid : isGap c = false) (cs : List Char) : skipGap (gap ++ c :: cs) = c :: cs := by
  unfold skipGap
  rw [List.dropWhile_append_of_pos blank, List.dropWhile_cons_of_neg (by simp [solid])]

theorem readValue_digit {c : Char} (digit : Text.isAsciiDigit c = true) (fuel : Nat)
    {gap : List Char} (blank : ∀ c ∈ gap, isGap c = true) {cs rest : List Char}
    {n : Option Number} (read : readNumber? false (c :: cs) = some (n, rest)) :
    readValue (fuel + 1) (gap ++ c :: cs) = .ok (.number n, rest) := by
  have solid : isGap c = false := by
    cases gap : isGap c with
    | false => rfl
    | true =>
      simp only [isGap, Bool.or_eq_true, decide_eq_true_eq] at gap
      rcases gap with ((rfl | rfl) | rfl) | rfl <;> cases digit
  rw [readValue]
  dsimp only
  rw [skipGap_append blank solid]
  split
  any_goals
    rename_i same
    cases same
    try cases digit
  rw [read]
  rfl

theorem readValue_minus (fuel : Nat) {gap : List Char} (blank : ∀ c ∈ gap, isGap c = true)
    {cs rest : List Char} {n : Option Number} (read : readNumber? true cs = some (n, rest)) :
    readValue (fuel + 1) (gap ++ '-' :: cs) = .ok (.number n, rest) := by
  rw [readValue]
  dsimp only
  rw [skipGap_append blank rfl]
  simp only [read]
  rfl

/-- The text of a number that is read may be followed by anything but a numeral. -/
theorem readValue_number {n n' : Number} (reads : ReadsAs n n') (fuel : Nat) {gap rest : List Char}
    (blank : ∀ c ∈ gap, isGap c = true) (apart : Apart rest) :
    readValue (fuel + 1) (gap ++ (n.text.toList ++ rest)) = .ok (.number (some n'), rest) := by
  obtain ⟨negative, body, text, read⟩ := reads
  have read : readNumber? negative (body ++ rest) = some (some n', rest) := by
    rw [readNumber_append apart, read]
    rfl
  rw [text]
  cases negative with
  | true => exact readValue_minus fuel blank read
  | false =>
    obtain ⟨c, cs, same, digit⟩ := readNumber_head read
    rw [if_neg Bool.false_ne_true, same]
    rw [same] at read
    exact readValue_digit digit fuel blank read

end FixGrader.Json.Document
