import FixGrader.Regex.Node
/-!
# What a pattern can match

A match divides a text into what comes before, what is taken and what comes after. Which divisions
a pattern allows says nothing about which of several matches is preferred.
-/
namespace FixGrader.Regex

/-- Matches, by what comes before, what is taken and what comes after. -/
abbrev Language := List Char → List Char → List Char → Prop

namespace Language
variable {a b : Language} {text : List Char} {i j k : Nat}

def nothing : Language := fun _ taken _ => taken = []

def oneOf (a b : Language) : Language := fun before taken after =>
  a before taken after ∨ b before taken after

def followedBy (a b : Language) : Language := fun before taken after =>
  ∃ first second, taken = first ++ second ∧
    a before first (second ++ after) ∧ b (before ++ first) second after

def times (a : Language) : Nat → Language
  | 0 => nothing
  | count + 1 => a.followedBy (a.times count)

/-- A number of matches in a row that is one of `counts`. -/
def often (a : Language) (counts : Nat → Prop) : Language := fun before taken after =>
  ∃ count, counts count ∧ a.times count before taken after

/-- A match between two positions of a text. -/
def Spans (a : Language) (text : List Char) (i j : Nat) : Prop :=
  ∃ before taken after, text = before ++ (taken ++ after) ∧ i = before.length ∧
    j = before.length + taken.length ∧ a before taken after

theorem Spans.le (spans : a.Spans text i j) : i ≤ j ∧ j ≤ text.length := by
  obtain ⟨before, taken, after, rfl, rfl, rfl, -⟩ := spans
  simp only [List.length_append]
  omega

theorem spans_nothing : nothing.Spans text i j ↔ i = j ∧ i ≤ text.length := by
  constructor
  · rintro ⟨before, taken, after, rfl, rfl, rfl, rfl⟩
    simp
  · rintro ⟨rfl, within⟩
    refine ⟨text.take i, [], text.drop i, (List.take_append_drop i text).symm, ?_, ?_, rfl⟩
    · rw [List.length_take_of_le within]
    · rw [List.length_take_of_le within, List.length_nil, Nat.add_zero]

theorem spans_oneOf : (a.oneOf b).Spans text i j ↔ a.Spans text i j ∨ b.Spans text i j := by
  constructor
  · rintro ⟨before, taken, after, split, start, stop, left | right⟩
    · exact Or.inl ⟨before, taken, after, split, start, stop, left⟩
    · exact Or.inr ⟨before, taken, after, split, start, stop, right⟩
  · rintro (⟨before, taken, after, split, start, stop, left⟩ |
      ⟨before, taken, after, split, start, stop, right⟩)
    · exact ⟨before, taken, after, split, start, stop, Or.inl left⟩
    · exact ⟨before, taken, after, split, start, stop, Or.inr right⟩

theorem spans_followedBy :
    (a.followedBy b).Spans text i j ↔ ∃ k, a.Spans text i k ∧ b.Spans text k j := by
  constructor
  · rintro ⟨before, taken, after, rfl, rfl, rfl, first, second, rfl, inFirst, inSecond⟩
    refine ⟨before.length + first.length,
      ⟨before, first, second ++ after, ?_, rfl, rfl, inFirst⟩,
      ⟨before ++ first, second, after, ?_, ?_, ?_, inSecond⟩⟩
    · rw [List.append_assoc]
    · simp only [List.append_assoc]
    · rw [List.length_append]
    · simp only [List.length_append]
      omega
  · rintro ⟨k, ⟨before, first, rest, rfl, rfl, rfl, inFirst⟩,
      ⟨before', second, after, same, middle, rfl, inSecond⟩⟩
    rw [← List.append_assoc] at same
    obtain ⟨rfl, rfl⟩ := List.append_inj same (by rw [List.length_append, middle])
    refine ⟨before, first ++ second, after, by rw [List.append_assoc], rfl, ?_, first, second, rfl,
      inFirst, inSecond⟩
    simp only [List.length_append]
    omega

theorem spans_often {counts : Nat → Prop} : (a.often counts).Spans text i j ↔
    ∃ count, counts count ∧ (a.times count).Spans text i j := by
  constructor
  · rintro ⟨before, taken, after, split, start, stop, count, among, repeated⟩
    exact ⟨count, among, before, taken, after, split, start, stop, repeated⟩
  · rintro ⟨count, among, before, taken, after, split, start, stop, repeated⟩
    exact ⟨before, taken, after, split, start, stop, count, among, repeated⟩

/-- One match, and then a number of more that is one of `counts`. -/
theorem spans_followedBy_often {counts : Nat → Prop} :
    (a.followedBy (a.often counts)).Spans text i j ↔
      ∃ count, counts count ∧ (a.times (count + 1)).Spans text i j := by
  simp only [times, spans_followedBy, spans_often]
  constructor
  · rintro ⟨k, first, count, among, more⟩
    exact ⟨count, among, k, first, more⟩
  · rintro ⟨count, among, k, first, more⟩
    exact ⟨k, first, count, among, more⟩

/-- Nothing at all, or one match and then a number of more that is one of `counts`. -/
theorem spans_optional {counts : Nat → Prop} :
    ((a.followedBy (a.often counts)).oneOf nothing).Spans text i j ↔
      ∃ count, (∀ n, count = n + 1 → counts n) ∧ (a.times count).Spans text i j := by
  rw [spans_oneOf, spans_followedBy_often]
  constructor
  · rintro (⟨n, among, spans⟩ | spans)
    · refine ⟨n + 1, ?_, spans⟩
      rintro _ ⟨⟩
      exact among
    · exact ⟨0, nofun, spans⟩
  · rintro ⟨count, among, spans⟩
    cases count with
    | zero => exact Or.inr spans
    | succ n => exact Or.inl ⟨n, among n rfl, spans⟩

theorem spans_times_add {m n : Nat} : (a.times (m + n)).Spans text i j ↔
    ∃ k, (a.times m).Spans text i k ∧ (a.times n).Spans text k j := by
  induction m generalizing i with
  | zero =>
    simp only [Nat.zero_add, times, spans_nothing]
    constructor
    · exact fun spans => ⟨i, ⟨rfl, Nat.le_trans spans.le.1 spans.le.2⟩, spans⟩
    · rintro ⟨k, ⟨rfl, -⟩, spans⟩
      exact spans
  | succ m ih =>
    simp only [Nat.succ_add, times, spans_followedBy, ih]
    constructor
    · rintro ⟨x, first, y, more, rest⟩
      exact ⟨y, ⟨x, first, more⟩, rest⟩
    · rintro ⟨y, ⟨x, first, more⟩, rest⟩
      exact ⟨x, first, y, more, rest⟩

/-- So many matches, and then a number of more that is one of `counts`. -/
theorem spans_times_followedBy_often {m : Nat} {counts : Nat → Prop} :
    ((a.times m).followedBy (a.often counts)).Spans text i j ↔
      ∃ count, counts count ∧ (a.times (m + count)).Spans text i j := by
  simp only [spans_times_add, spans_followedBy, spans_often]
  constructor
  · rintro ⟨k, first, count, among, more⟩
    exact ⟨count, among, k, first, more⟩
  · rintro ⟨count, among, k, first, more⟩
    exact ⟨k, first, count, among, more⟩

end Language

/-- What a pattern can match. -/
def Node.Takes : Node → Language
  | .empty => .nothing
  | .char set => fun _ taken _ => ∃ c, taken = [c] ∧ set.contains c = true
  | .assert condition => fun before taken after =>
    taken = [] ∧ condition.holds before.getLast? after.head? = true
  | .seq a b => a.Takes.followedBy b.Takes
  | .alt a b => a.Takes.oneOf b.Takes
  | .loop body least most _ =>
    body.Takes.often fun count => least ≤ count ∧ ∀ bound ∈ most, count ≤ max least bound

namespace Node
variable {text : List Char} {i j : Nat}

theorem spans_char {set : CharSet} : (char set).Takes.Spans text i j ↔
    ∃ c, text[i]? = some c ∧ set.contains c = true ∧ j = i + 1 := by
  constructor
  · rintro ⟨before, taken, after, rfl, rfl, rfl, c, rfl, fits⟩
    exact ⟨c, by simp, fits, rfl⟩
  · rintro ⟨c, here, fits, rfl⟩
    obtain ⟨within, rfl⟩ := List.getElem?_eq_some_iff.mp here
    refine ⟨text.take i, [text[i]], text.drop (i + 1), ?_, ?_, ?_, text[i], rfl, fits⟩
    · rw [List.singleton_append, List.getElem_cons_drop, List.take_append_drop]
    · rw [List.length_take_of_le (Nat.le_of_lt within)]
    · rw [List.length_take_of_le (Nat.le_of_lt within), List.length_singleton]

theorem spans_assert {condition : Assertion} : (assert condition).Takes.Spans text i j ↔
    j = i ∧ i ≤ text.length ∧
      condition.holds (if i = 0 then none else text[i - 1]?) text[i]? = true := by
  have around : ∀ before after : List Char,
      (if before.length = 0 then none else (before ++ after)[before.length - 1]?) =
          before.getLast? ∧
        (before ++ after)[before.length]? = after.head? := by
    intro before after
    refine ⟨?_, by rw [List.getElem?_append_right (Nat.le_refl _), Nat.sub_self,
      List.head?_eq_getElem?]⟩
    cases before with
    | nil => rfl
    | cons c cs =>
      rw [if_neg (by simp), List.getLast?_eq_getElem?, List.getElem?_append_left (by simp)]
  constructor
  · rintro ⟨before, taken, after, rfl, rfl, rfl, rfl, holds⟩
    obtain ⟨left, right⟩ := around before after
    rw [List.nil_append, left, right]
    exact ⟨rfl, by simp, holds⟩
  · rintro ⟨rfl, within, holds⟩
    obtain ⟨left, right⟩ := around (text.take j) (text.drop j)
    rw [List.take_append_drop, List.length_take_of_le within] at left right
    refine ⟨text.take j, [], text.drop j, ?_, ?_, ?_, rfl, ?_⟩
    · rw [List.nil_append, List.take_append_drop]
    · rw [List.length_take_of_le within]
    · rw [List.length_take_of_le within, List.length_nil, Nat.add_zero]
    · rwa [← left, ← right]

end Node

end FixGrader.Regex
