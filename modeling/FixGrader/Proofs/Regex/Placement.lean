import FixGrader.Proofs.Regex.Language
import FixGrader.Regex.Search
/-!
# What compiled patterns accept

A pattern is put in front of code that is there already. Carrying out what was put there comes to
matching the pattern and then going on with that code; so a compiled pattern accepts, from any
position, where its matches end.
-/
namespace FixGrader.Regex.Program
variable {p : Program} {text : Array Char} {stop steps : Nat}

/-- Whether a task can lead, in so many steps, to acceptance at a position. -/
def AcceptsIn (p : Program) (text : Array Char) (stop : Nat) : Nat → Task → Prop
  | 0, task => p.accepts task = true ∧ task.2 = stop
  | steps + 1, task => ∃ next ∈ p.successors text task, p.AcceptsIn text stop steps next

def Accepts (p : Program) (text : Array Char) (stop : Nat) (task : Task) : Prop :=
  ∃ steps, p.AcceptsIn text stop steps task

theorem Accepts.step {task next : Task} (follows : next ∈ p.successors text task)
    (accepts : p.Accepts text stop next) : p.Accepts text stop task := by
  obtain ⟨steps, accepts⟩ := accepts
  exact ⟨steps + 1, next, follows, accepts⟩

/-- At an instruction other than `accept`, acceptance takes a step. -/
theorem AcceptsIn.cases {task : Task} (accepts : p.AcceptsIn text stop steps task)
    (goesOn : p.accepts task = false) : ∃ left, steps = left + 1 ∧
      ∃ next ∈ p.successors text task, p.AcceptsIn text stop left next := by
  cases steps with
  | zero => exact absurd accepts.1 (by rw [goesOn]; decide)
  | succ left => exact ⟨left, rfl, accepts⟩

section instructions
variable {pc next first second i : Nat}

theorem successors_char {set : CharSet} (here : p.code[pc]? = some (.char set next)) {task : Task} :
    task ∈ p.successors text (pc, i) ↔
      ∃ c, text[i]? = some c ∧ set.contains c = true ∧ task = (next, i + 1) := by
  simp only [successors, here]
  cases text[i]? with
  | none => simp
  | some c =>
    by_cases fits : set.contains c = true
    · simp [fits]
    · simp [fits]

theorem successors_assert {condition : Assertion}
    (here : p.code[pc]? = some (.assert condition next)) {task : Task} :
    task ∈ p.successors text (pc, i) ↔
      condition.holds (if i = 0 then none else text[i - 1]?) text[i]? = true ∧
        task = (next, i) := by
  simp only [successors, here]
  split
  · rename_i holds
    simp [holds]
  · simp [*]

theorem successors_split (here : p.code[pc]? = some (.split first second)) {task : Task} :
    task ∈ p.successors text (pc, i) ↔ task = (first, i) ∨ task = (second, i) := by
  simp only [successors, here, List.mem_cons, List.not_mem_nil, or_false]

theorem successors_choice {greedy : Bool} (here : p.code[pc]? = some (choice greedy first second))
    {task : Task} : task ∈ p.successors text (pc, i) ↔ task = (first, i) ∨ task = (second, i) := by
  cases greedy with
  | true => exact successors_split here
  | false => exact (successors_split here).trans or_comm

theorem accepts_choice {greedy : Bool} (here : p.code[pc]? = some (choice greedy first second)) :
    p.accepts (pc, i) = false := by
  cases greedy <;> simp only [accepts, here, choice] <;> rfl

end instructions

/-- Starting at `start` comes to a match of the language and then going on at `next`. -/
structure Realizes (p : Program) (l : Language) (start next : Nat) : Prop where
  sound : ∀ {text stop steps i}, i ≤ text.size → p.AcceptsIn text stop steps (start, i) →
    ∃ j, l.Spans text.toList i j ∧ ∃ left ≤ steps, p.AcceptsIn text stop left (next, j)
  complete : ∀ {text stop i j}, l.Spans text.toList i j → p.Accepts text stop (next, j) →
    p.Accepts text stop (start, i)

namespace Realizes
open Regex.Language
variable {a b : Language} {start middle next first second : Nat}

theorem nothing : p.Realizes nothing next next where
  sound := fun {_ _ steps i} within accepts =>
    ⟨i, spans_nothing.mpr ⟨rfl, within⟩, steps, Nat.le_refl steps, accepts⟩
  complete spans accepts := by
    obtain ⟨rfl, -⟩ := spans_nothing.mp spans
    exact accepts

theorem followedBy (inFirst : p.Realizes a start middle) (inSecond : p.Realizes b middle next) :
    p.Realizes (a.followedBy b) start next where
  sound := by
    intro text stop steps i within accepts
    obtain ⟨k, spansFirst, between, fewer, accepts⟩ := inFirst.sound within accepts
    obtain ⟨j, spansSecond, left, fewer', accepts⟩ := inSecond.sound spansFirst.le.2 accepts
    exact ⟨j, spans_followedBy.mpr ⟨k, spansFirst, spansSecond⟩, left, Nat.le_trans fewer' fewer,
      accepts⟩
  complete spans accepts := by
    obtain ⟨k, spansFirst, spansSecond⟩ := spans_followedBy.mp spans
    exact inFirst.complete spansFirst (inSecond.complete spansSecond accepts)

theorem char {set : CharSet} (here : p.code[start]? = some (.char set next)) :
    p.Realizes (Node.char set).Takes start next where
  sound := by
    intro text stop steps i within accepts
    obtain ⟨left, rfl, task, follows, accepts⟩ := accepts.cases (by simp [Program.accepts, here])
    obtain ⟨c, atC, fits, rfl⟩ := (successors_char here).mp follows
    refine ⟨i + 1, Node.spans_char.mpr ⟨c, ?_, fits, rfl⟩, left, Nat.le_succ left, accepts⟩
    rw [Array.getElem?_toList, atC]
  complete spans accepts := by
    obtain ⟨c, atC, fits, rfl⟩ := Node.spans_char.mp spans
    rw [Array.getElem?_toList] at atC
    exact accepts.step ((successors_char here).mpr ⟨c, atC, fits, rfl⟩)

theorem assert {condition : Assertion} (here : p.code[start]? = some (.assert condition next)) :
    p.Realizes (Node.assert condition).Takes start next where
  sound := by
    intro text stop steps i within accepts
    obtain ⟨left, rfl, task, follows, accepts⟩ := accepts.cases (by simp [Program.accepts, here])
    obtain ⟨holds, rfl⟩ := (successors_assert here).mp follows
    refine ⟨i, Node.spans_assert.mpr ⟨rfl, within, ?_⟩, left, Nat.le_succ left, accepts⟩
    simpa only [Array.getElem?_toList] using holds
  complete spans accepts := by
    obtain ⟨rfl, -, holds⟩ := Node.spans_assert.mp spans
    refine accepts.step ((successors_assert here).mpr ⟨?_, rfl⟩)
    simpa only [Array.getElem?_toList] using holds

theorem oneOf {greedy : Bool} (here : p.code[start]? = some (choice greedy first second))
    (inFirst : p.Realizes a first next) (inSecond : p.Realizes b second next) :
    p.Realizes (a.oneOf b) start next where
  sound := by
    intro text stop steps i within accepts
    obtain ⟨between, rfl, task, follows, accepts⟩ := accepts.cases (accepts_choice here)
    rcases (successors_choice here).mp follows with rfl | rfl
    · obtain ⟨j, spans, left, fewer, accepts⟩ := inFirst.sound within accepts
      exact ⟨j, spans_oneOf.mpr (Or.inl spans), left, Nat.le_succ_of_le fewer, accepts⟩
    · obtain ⟨j, spans, left, fewer, accepts⟩ := inSecond.sound within accepts
      exact ⟨j, spans_oneOf.mpr (Or.inr spans), left, Nat.le_succ_of_le fewer, accepts⟩
  complete spans accepts := by
    rcases spans_oneOf.mp spans with spans | spans
    · exact (inFirst.complete spans accepts).step ((successors_choice here).mpr (Or.inl rfl))
    · exact (inSecond.complete spans accepts).step ((successors_choice here).mpr (Or.inr rfl))

/-- A choice between leaving and a round that leads back to the choice. -/
theorem anyNumber {greedy : Bool} (here : p.code[start]? = some (choice greedy first next))
    (round : p.Realizes a first start) : p.Realizes (a.often fun _ => True) start next where
  sound := by
    intro text stop steps i within accepts
    induction steps using Nat.strongRecOn generalizing i with
    | ind steps ih =>
      obtain ⟨between, rfl, task, follows, accepts⟩ := accepts.cases (accepts_choice here)
      rcases (successors_choice here).mp follows with rfl | rfl
      · obtain ⟨k, spans, left, fewer, accepts⟩ := round.sound within accepts
        obtain ⟨j, more, left', fewer', accepts⟩ :=
          ih left (Nat.lt_succ_of_le fewer) spans.le.2 accepts
        obtain ⟨count, -, more⟩ := spans_often.mp more
        have spans : (a.times (count + 1)).Spans text.toList i j :=
          spans_followedBy.mpr ⟨k, spans, more⟩
        exact ⟨j, spans_often.mpr ⟨count + 1, trivial, spans⟩, left',
          Nat.le_succ_of_le (Nat.le_trans fewer' fewer), accepts⟩
      · exact ⟨i, spans_often.mpr ⟨0, trivial, spans_nothing.mpr ⟨rfl, within⟩⟩, between,
          Nat.le_succ between, accepts⟩
  complete := by
    intro text stop i j spans accepts
    rw [spans_often] at spans
    obtain ⟨count, -, spans⟩ := spans
    induction count generalizing i with
    | zero =>
      obtain ⟨rfl, -⟩ := spans_nothing.mp spans
      exact accepts.step ((successors_choice here).mpr (Or.inr rfl))
    | succ count ih =>
      obtain ⟨k, spans, more⟩ := spans_followedBy.mp spans
      exact (round.complete spans (ih more)).step ((successors_choice here).mpr (Or.inl rfl))

theorem of_spans (inFirst : p.Realizes a start next)
    (same : ∀ {text i j}, a.Spans text i j ↔ b.Spans text i j) : p.Realizes b start next where
  sound within accepts := by
    obtain ⟨j, spans, accepts⟩ := inFirst.sound within accepts
    exact ⟨j, same.mp spans, accepts⟩
  complete spans accepts := inFirst.complete (same.mpr spans) accepts

end Realizes

structure Extends (code code' : Code) : Prop where
  size_le : code.size ≤ code'.size
  same : ∀ k < code.size, code'[k]? = code[k]?

/-- The program has the instructions of the code, from number `base` on. -/
def Holds (p : Program) (base : Nat) (code : Code) : Prop :=
  ∀ k, base ≤ k → k < code.size → p.code[k]? = code[k]?

section
variable {code code' code'' : Code} {base : Nat}

theorem Extends.refl (code : Code) : Extends code code := ⟨Nat.le_refl _, fun _ _ => rfl⟩

theorem Extends.trans (first : Extends code code') (second : Extends code' code'') :
    Extends code code'' where
  size_le := Nat.le_trans first.size_le second.size_le
  same k within :=
    (second.same k (Nat.lt_of_lt_of_le within first.size_le)).trans (first.same k within)

theorem Extends.push (code : Code) (i : Instruction) : Extends code (code.push i) where
  size_le := by rw [Array.size_push]; exact Nat.le_succ _
  same k within := by rw [Array.getElem?_push, if_neg (Nat.ne_of_lt within)]

theorem Holds.inner (holds : p.Holds base code') (within : Extends code code') :
    p.Holds base code := fun k low high =>
  (holds k low (Nat.lt_of_lt_of_le high within.size_le)).trans (within.same k high)

theorem Holds.outer {base' : Nat} (holds : p.Holds base code) (higher : base ≤ base') :
    p.Holds base' code := fun k low high => holds k (Nat.le_trans higher low) high

theorem Holds.last {i : Instruction} (holds : p.Holds base (code.push i)) (low : base ≤ code.size) :
    p.code[code.size]? = some i := by
  rw [holds _ low (by rw [Array.size_push]; exact Nat.lt_succ_self _), Array.getElem?_push_size]

end

/-- What is put in front of other code leaves that code as it is, and realizes the language. -/
structure Places (one : Nat → Code → Nat × Code) (l : Language) : Prop where
  keeps : ∀ next code, Extends code (one next code).2
  realizes : ∀ {p : Program} {next : Nat} {code : Code}, p.Holds code.size (one next code).2 →
    p.Realizes l (one next code).1 next

namespace Places
open Regex.Language
variable {one two : Nat → Code → Nat × Code} {a b : Language}

theorem nothing : Places (fun next code => (next, code)) nothing where
  keeps _ code := Extends.refl code
  realizes _ := Realizes.nothing

theorem char (set : CharSet) :
    Places (fun next code => emit (.char set next) code) (Node.char set).Takes where
  keeps _ code := Extends.push code _
  realizes holds := Realizes.char (holds.last (Nat.le_refl _))

theorem assert (condition : Assertion) :
    Places (fun next code => emit (.assert condition next) code) (Node.assert condition).Takes where
  keeps _ code := Extends.push code _
  realizes holds := Realizes.assert (holds.last (Nat.le_refl _))

theorem followedBy (first : Places one a) (second : Places two b) :
    Places (fun next code => one (two next code).1 (two next code).2) (a.followedBy b) where
  keeps next code := (second.keeps next code).trans (first.keeps _ _)
  realizes {_ next code} holds :=
    (first.realizes (holds.outer (second.keeps next code).size_le)).followedBy
      (second.realizes (holds.inner (first.keeps _ _)))

/-- Two pieces, and a choice between the one that was put last and another place. -/
theorem oneOf (greedy : Bool) (first : Places one a) (second : Places two b) :
    Places (fun next code =>
        let inner := two next code
        let outer := one next inner.2
        emit (choice greedy outer.1 inner.1) outer.2) (a.oneOf b) where
  keeps next code :=
    ((second.keeps next code).trans (first.keeps next _)).trans (Extends.push _ _)
  realizes {_ next code} holds :=
    have inner := second.keeps next code
    have outer := first.keeps next (two next code).2
    Realizes.oneOf (holds.last (inner.trans outer).size_le)
      (first.realizes ((holds.inner (Extends.push _ _)).outer inner.size_le))
      (second.realizes ((holds.inner (Extends.push _ _)).inner outer))

theorem of_spans (places : Places one a)
    (same : ∀ {text i j}, a.Spans text i j ↔ b.Spans text i j) : Places one b where
  keeps := places.keeps
  realizes holds := (places.realizes holds).of_spans same

theorem copies (places : Places one a) (count : Nat) :
    Places (copies one count) (a.times count) := by
  induction count with
  | zero => exact nothing
  | succ count ih => exact places.followedBy ih

theorem optionalCopies (greedy : Bool) (places : Places one a) (count : Nat) :
    Places (fun next code => optionalCopies greedy one next count code)
      (a.often fun n => n ≤ count) := by
  induction count with
  | zero =>
    refine nothing.of_spans ?_
    simp [spans_often, times]
  | succ count ih =>
    refine ((places.followedBy ih).oneOf greedy nothing).of_spans ?_
    intro text i j
    rw [spans_optional, spans_often]
    refine exists_congr fun n => and_congr_left fun _ => ?_
    constructor
    · intro few
      cases n with
      | zero => exact Nat.zero_le _
      | succ k => exact Nat.succ_le_succ (few k rfl)
    · rintro few k rfl
      exact Nat.le_of_succ_le_succ few

/-- The choice after a copy gets the number of an instruction that is put there before the copy. -/
theorem repeated (greedy : Bool) (places : Places one a) (next : Nat) (code : Code) :
    ∃ inside again code', repeated greedy one next code = (inside, again, code') ∧
      Extends code code' ∧ ∀ p : Program, p.Holds code.size code' →
        p.Realizes a inside again ∧ p.Realizes (a.often fun _ => True) again next := by
  let copied := (one code.size (code.push .accept)).2
  let inside := (one code.size (code.push .accept)).1
  have kept : Extends (code.push .accept) copied := places.keeps _ _
  have again : code.size < copied.size :=
    Nat.lt_of_lt_of_le (by rw [Array.size_push]; exact Nat.lt_succ_self _) kept.size_le
  refine ⟨inside, code.size, copied.setIfInBounds code.size (choice greedy inside next), rfl,
    ?_, ?_⟩
  · refine ⟨?_, fun k within => ?_⟩
    · rw [Array.size_setIfInBounds]
      exact Nat.le_of_lt again
    · rw [Array.getElem?_setIfInBounds_ne (Nat.ne_of_gt within)]
      exact ((Extends.push code _).trans kept).same k within
  · intro p holds
    have closing : p.code[code.size]? = some (choice greedy inside next) := by
      rw [holds _ (Nat.le_refl _) (by rwa [Array.size_setIfInBounds]),
        Array.getElem?_setIfInBounds_self_of_lt again]
    have copy : p.Holds (code.push .accept).size copied := by
      intro k low high
      rw [Array.size_push] at low
      rw [holds k (Nat.le_of_succ_le low) (by rwa [Array.size_setIfInBounds]),
        Array.getElem?_setIfInBounds_ne (Nat.ne_of_lt low)]
    have round : p.Realizes a inside code.size := places.realizes copy
    exact ⟨round, Realizes.anyNumber closing round⟩

theorem atLeastOnce (greedy : Bool) (places : Places one a) :
    Places (fun next code => ((Program.repeated greedy one next code).1,
      (Program.repeated greedy one next code).2.2)) (a.followedBy (a.often fun _ => True)) where
  keeps next code := by
    obtain ⟨inside, again, code', same, kept, -⟩ := places.repeated greedy next code
    rw [same]
    exact kept
  realizes {p next code} holds := by
    obtain ⟨inside, again, code', same, -, realizes⟩ := places.repeated greedy next code
    rw [same] at holds ⊢
    obtain ⟨round, rounds⟩ := realizes p holds
    exact round.followedBy rounds

theorem anyNumber (greedy takesInput : Bool) (places : Places one a) :
    Places (anyNumber greedy takesInput one) (a.often fun _ => True) := by
  cases takesInput with
  | true =>
    refine ⟨fun next code => ?_, fun {p next code} holds => ?_⟩
    · obtain ⟨inside, again, code', same, kept, -⟩ := places.repeated greedy next code
      simp only [Program.anyNumber, same, if_true]
      exact kept
    · obtain ⟨inside, again, code', same, -, realizes⟩ := places.repeated greedy next code
      simp only [Program.anyNumber, same, if_true] at holds ⊢
      exact (realizes p holds).2
  | false =>
    refine ((places.atLeastOnce greedy).oneOf greedy nothing).of_spans ?_
    intro text i j
    simp only [spans_optional, spans_often, implies_true]

theorem bounded (greedy : Bool) (places : Places one a) (least most : Nat) :
    Places (fun next code =>
        let rest := Program.optionalCopies greedy one next (most - least) code
        Program.copies one least rest.1 rest.2)
      (a.often fun n => least ≤ n ∧ ∀ bound ∈ some most, n ≤ max least bound) := by
  refine Places.of_spans
    ((places.copies least).followedBy (places.optionalCopies greedy (most - least))) ?_
  intro text i j
  rw [spans_times_followedBy_often, spans_often]
  constructor
  · rintro ⟨n, few, spans⟩
    refine ⟨least + n, ⟨Nat.le_add_right _ _, ?_⟩, spans⟩
    rintro _ ⟨⟩
    omega
  · rintro ⟨n, ⟨enough, few⟩, spans⟩
    have few := few most rfl
    exact ⟨n - least, by omega, by rwa [Nat.add_sub_cancel' enough]⟩

theorem unbounded (greedy : Bool) (places : Places one a) (least : Nat) :
    Places (fun next code =>
        let rest := Program.repeated greedy one next code
        Program.copies one least rest.1 rest.2.2)
      (a.often fun n => least + 1 ≤ n ∧ ∀ bound ∈ none, n ≤ max (least + 1) bound) := by
  refine ((places.copies least).followedBy (places.atLeastOnce greedy)).of_spans ?_
  intro text i j
  rw [spans_followedBy, spans_often]
  constructor
  · rintro ⟨k, first, more⟩
    obtain ⟨n, -, more⟩ := spans_followedBy_often.mp more
    refine ⟨least + (n + 1), ⟨by omega, ?_⟩, spans_times_add.mpr ⟨k, first, more⟩⟩
    rintro _ ⟨⟩
  · rintro ⟨n, ⟨enough, -⟩, spans⟩
    obtain ⟨extra, rfl⟩ := Nat.exists_eq_add_of_le enough
    rw [Nat.add_assoc, Nat.add_comm 1] at spans
    obtain ⟨k, first, more⟩ := spans_times_add.mp spans
    exact ⟨k, first, spans_followedBy_often.mpr ⟨extra, trivial, more⟩⟩

/-- What is put in front of other code for a pattern matches what the pattern does. -/
theorem place (n : Node) : Places (place n) n.Takes := by
  induction n with
  | empty => exact nothing
  | char set => exact char set
  | assert condition => exact assert condition
  | seq a b inFirst inSecond => exact inFirst.followedBy inSecond
  | alt a b inFirst inSecond => exact inFirst.oneOf true inSecond
  | loop body least most greedy ih =>
    cases most with
    | some most => exact ih.bounded greedy least most
    | none =>
      cases least with
      | zero =>
        refine (ih.anyNumber greedy body.takesInput).of_spans ?_
        simp [Node.Takes, spans_often]
      | succ least => exact ih.unbounded greedy least

end Places

/-- A compiled pattern accepts, from any position of a text, where its matches end. -/
theorem accepts_ofNode (n : Node) {i : Nat} (within : i ≤ text.size) :
    (ofNode n).Accepts text stop ((ofNode n).start, i) ↔ n.Takes.Spans text.toList i stop := by
  have kept : Extends #[.accept] (ofNode n).code := (Places.place n).keeps 0 _
  have realizes : (ofNode n).Realizes n.Takes (ofNode n).start 0 :=
    (Places.place n).realizes fun _ _ _ => rfl
  have final : (ofNode n).code[0]? = some .accept := (kept.same 0 (by decide)).trans rfl
  have accepting : ∀ j, (ofNode n).accepts (0, j) = true := fun j => by
    simp only [accepts, final]
  have noFurther : ∀ j, (ofNode n).successors text (0, j) = [] := fun j => by
    simp only [successors, final]
  constructor
  · rintro ⟨steps, accepts⟩
    obtain ⟨j, spans, left, -, accepts⟩ := realizes.sound within accepts
    cases left with
    | zero =>
      obtain ⟨-, rfl⟩ := accepts
      exact spans
    | succ left =>
      obtain ⟨next, follows, -⟩ := accepts
      rw [noFurther] at follows
      exact absurd follows List.not_mem_nil
  · intro spans
    exact realizes.complete spans ⟨0, accepting stop, rfl⟩

end FixGrader.Regex.Program
