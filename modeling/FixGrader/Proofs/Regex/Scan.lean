import FixGrader.Proofs.Regex.Exploration
/-!
# The matches of a scan

A text is scanned from left to right. Each match is searched for where the one before ends, and the
leftmost one is taken; only an empty match right after another one is passed over. So the matches
are in order and do not overlap, and none is missed: where a match can begin, one of them begins or
goes on, or one ends and an empty match is passed over.
-/
namespace FixGrader.Regex.Program
variable {p : Program} {text : Array Char} {start fuel : Nat} {last : Option Nat} {span : Span}

theorem le_of_successors {task next : Task} (follows : next ∈ p.successors text task) :
    task.2 ≤ next.2 := by
  rcases position_of_successors follows with stays | ⟨passes, -⟩
  · exact Nat.le_of_eq stays.symm
  · rw [passes]
    exact Nat.le_succ _

theorem Accepts.le {stop : Nat} {task : Task} (accepts : p.Accepts text stop task)
    (within : task.2 ≤ text.size) : task.2 ≤ stop ∧ stop ≤ text.size := by
  obtain ⟨steps, accepts⟩ := accepts
  induction steps generalizing task with
  | zero =>
    obtain ⟨-, rfl⟩ := accepts
    exact ⟨Nat.le_refl _, within⟩
  | succ steps ih =>
    obtain ⟨next, follows, accepts⟩ := accepts
    have forward : task.2 ≤ next.2 := le_of_successors follows
    obtain ⟨later, inside⟩ := ih (successors_within within next follows) accepts
    exact ⟨Nat.le_trans forward later, inside⟩

/-- An empty match where the match before ends. -/
def PassedOver (p : Program) (text : Array Char) (last : Option Nat) (i : Nat) : Prop :=
  last = some i ∧ p.Accepts text i (p.start, i)

theorem PassedOver.further {i : Nat} (passed : p.PassedOver text last i) :
    ∀ j, i ≤ j → ¬ p.PassedOver text last j → i + 1 ≤ j := by
  intro j low counts
  refine Nat.lt_of_le_of_ne low ?_
  rintro rfl
  exact counts passed

/-- A match begins at a position, or goes on there, or ends there and an empty one is passed over. -/
def AccountsFor (p : Program) (text : Array Char) (s : Span) (i : Nat) : Prop :=
  s.start = i ∨ (s.start < i ∧ i < s.stop) ∨ p.PassedOver text (some s.stop) i

/-- The matches of a scan from `start` on, where `last` is the end of the match before. -/
structure ScannedFrom (p : Program) (text : Array Char) (start : Nat) (last : Option Nat)
    (spans : List Span) : Prop where
  matched : ∀ s ∈ spans, s.start ≤ text.size ∧ p.Accepts text s.stop (p.start, s.start)
  onwards : ∀ s ∈ spans, start ≤ s.start ∧ last ≠ some s.stop
  ordered : spans.Pairwise fun a b => a.stop ≤ b.start ∧ a.stop < b.stop
  complete : ∀ i ≤ text.size, start ≤ i → ¬ p.Dead text (p.start, i) →
    p.PassedOver text last i ∨ ∃ s ∈ spans, p.AccountsFor text s i

theorem ScannedFrom.nil (dead : ∀ i ≤ text.size, start ≤ i → ¬ p.PassedOver text last i →
    p.Dead text (p.start, i)) : ScannedFrom p text start last [] where
  matched := by simp
  onwards := by simp
  ordered := .nil
  complete i within low alive := by
    by_cases passed : p.PassedOver text last i
    · exact Or.inl passed
    · exact absurd (dead i within low passed) alive

/-- A match goes before those that are found from its end on. -/
theorem ScannedFrom.cons {rest : List Span} (within : span.start ≤ text.size)
    (accepts : p.Accepts text span.stop (p.start, span.start))
    (onwards : start ≤ span.start ∧ last ≠ some span.stop)
    (previous : ∀ l ∈ last, l ≤ start)
    (leftmost : ∀ i, start ≤ i → i < span.start → ¬ p.PassedOver text last i →
      p.Dead text (p.start, i))
    (later : ScannedFrom p text span.stop (some span.stop) rest) :
    ScannedFrom p text start last (span :: rest) := by
  have forward : span.start ≤ span.stop := (accepts.le within).1
  have behind : ∀ s ∈ rest, span.stop ≤ s.start ∧ span.stop < s.stop := by
    intro s listed
    obtain ⟨after, apart⟩ := later.onwards s listed
    obtain ⟨inside, accepts'⟩ := later.matched s listed
    have forward' : s.start ≤ s.stop := (accepts'.le inside).1
    have other : span.stop ≠ s.stop := fun same => apart (congrArg some same)
    exact ⟨after, by omega⟩
  refine ⟨?_, ?_, List.pairwise_cons.mpr ⟨behind, later.ordered⟩, ?_⟩
  · exact List.forall_mem_cons.mpr ⟨⟨within, accepts⟩, later.matched⟩
  · refine List.forall_mem_cons.mpr ⟨onwards, fun s listed => ?_⟩
    obtain ⟨after, beyond⟩ := behind s listed
    refine ⟨by omega, fun ended => ?_⟩
    have back : s.stop ≤ start := previous s.stop ended
    omega
  · intro i inside low alive
    rcases Nat.lt_trichotomy i span.start with before | rfl | after
    · by_cases passed : p.PassedOver text last i
      · exact Or.inl passed
      · exact absurd (leftmost i low before passed) alive
    · exact Or.inr ⟨span, List.mem_cons_self, Or.inl rfl⟩
    · by_cases covered : i < span.stop
      · exact Or.inr ⟨span, List.mem_cons_self, Or.inr (Or.inl ⟨after, covered⟩)⟩
      · have low' : span.stop ≤ i := Nat.le_of_not_lt covered
        rcases later.complete i inside low' alive with passed | ⟨s, listed, told⟩
        · exact Or.inr ⟨span, List.mem_cons_self, Or.inr (Or.inr passed)⟩
        · exact Or.inr ⟨s, List.mem_cons_of_mem _ listed, told⟩

/-- The match that a search from `low` on finds goes before those from its end on, where no match that
counts can begin before `low`. -/
theorem ScannedFrom.of_leftmost {low : Nat} {rest : Span → List Span}
    (previous : ∀ l ∈ last, l ≤ start) (further : start ≤ low)
    (skipped : ∀ i, start ≤ i → ¬ p.PassedOver text last i → low ≤ i)
    (later : ∀ s : Span, start ≤ s.stop → last ≠ some s.stop →
      ScannedFrom p text s.stop (some s.stop) (rest s)) :
    ∀ found : Option Span, p.Leftmost text low (text.size + 1) found →
      (∀ s ∈ found, low ≤ s.start → s.start ≤ s.stop → last ≠ some s.stop) →
        ScannedFrom p text start last (found.elim [] fun s => s :: rest s)
  | none, searched, _ => .nil fun i within low' counts =>
    searched i (skipped i low' counts) (Nat.lt_succ_of_le within)
  | some s, ⟨low', high, accepts, leftmost⟩, apart => by
    have within : s.start ≤ text.size := Nat.le_of_lt_succ high
    have forward : s.start ≤ s.stop := (accepts.le within).1
    have other : last ≠ some s.stop := apart s rfl low' forward
    have onwards : start ≤ s.start := Nat.le_trans further low'
    refine .cons within accepts ⟨onwards, other⟩ previous ?_ (later s (by omega) other)
    intro i low'' before counts
    exact leftmost i (skipped i low'' counts) before

/-- A scan goes on as long as there is something left. Its fuel is enough for a match at each
position and for an empty one that is passed over there. -/
theorem matchesFrom_scanned (previous : ∀ l ∈ last, l = start)
    (enough : 2 * (text.size + 1 - start) ≤ fuel + (if last = some start then 1 else 0)) :
    ScannedFrom p text start last (matchesFrom p text fuel start last) := by
  induction fuel generalizing start last with
  | zero =>
    have past : text.size < start := by split at enough <;> omega
    exact .nil fun i within low _ => absurd low (by omega)
  | succ fuel ih =>
    have before : ∀ l ∈ last, l ≤ start := fun l ended => Nat.le_of_eq (previous l ended)
    have later : ∀ s : Span, start ≤ s.stop → last ≠ some s.stop →
        ScannedFrom p text s.stop (some s.stop) (matchesFrom p text fuel s.stop (some s.stop)) := by
      intro s onwards other
      refine ih (by simp) ?_
      rw [if_pos rfl]
      split at enough
      · rename_i ended
        have further : start ≠ s.stop := fun same => other (same ▸ ended)
        omega
      · omega
    rw [matchesFrom]
    split
    · rename_i past
      exact .nil fun i within low _ => absurd low (by omega)
    · rename_i inside
      have bound : start ≤ text.size := Nat.le_of_not_lt inside
      have searched := first?_leftmost p text (Nat.le_succ_of_le bound)
      have scanned := ScannedFrom.of_leftmost before (Nat.le_refl _) (fun _ low _ => low) later _
        searched
      cases found : p.first? text start with
      | none =>
        rw [found] at scanned
        exact scanned (by simp)
      | some span =>
        rw [found] at scanned searched
        obtain ⟨low, high, accepts, -⟩ := searched
        dsimp only
        split
        · rename_i passed
          obtain ⟨empty, ended⟩ := passed
          obtain rfl : span.stop = start := previous _ ended
          rw [empty] at accepts
          have skipped : p.PassedOver text last span.stop := ⟨ended, accepts⟩
          have behind := ScannedFrom.of_leftmost before (Nat.le_succ _) skipped.further later _
            (first?_leftmost p text (Nat.succ_le_succ bound)) (by
              intro s _ low forward same
              have ended' : span.stop = s.stop := Option.some.inj (ended.symm.trans same)
              omega)
          cases found : p.first? text (span.stop + 1) with
          | none =>
            rw [found] at behind
            exact behind
          | some next =>
            rw [found] at behind
            exact behind
        · rename_i counts
          refine scanned ?_
          rintro s ⟨⟩ _ forward ended
          have there : span.stop = start := previous _ ended
          exact counts ⟨by omega, ended⟩

/-- The matches in a text are those of a scan of the whole text. -/
theorem spans_scanned (p : Program) (text : Array Char) :
    ScannedFrom p text 0 none (p.spans text) :=
  matchesFrom_scanned (by simp) (by simp; omega)

end FixGrader.Regex.Program
