import FixGrader.Proofs.Regex.Placement
import FixGrader.Rules.RuleSet
/-!
# Searching without doing a task twice

The tasks done so far are closed: none of them accepts, and what follows from one is done as well or
waits in the stack. So when the stack is empty and nothing has accepted, none of them can lead to
acceptance, also not for a later start. A search finds the leftmost place where a match begins.
-/
namespace FixGrader.Regex.Program
variable {p : Program} {text : Array Char} {done : Array Bool} {stack : List Task} {task : Task}

/-- Whether a task leads nowhere. -/
def Dead (p : Program) (text : Array Char) (task : Task) : Prop :=
  ∀ stop, ¬ p.Accepts text stop task

def Done (text : Array Char) (done : Array Bool) (task : Task) : Prop :=
  task.2 ≤ text.size ∧ done[taskIndex text task]? = some true

theorem taskIndex_inj {task' : Task} (within : task.2 ≤ text.size) (within' : task'.2 ≤ text.size)
    (same : taskIndex text task = taskIndex text task') : task = task' := by
  have size : 0 < text.size + 1 := Nat.succ_pos _
  have quotient : ∀ t : Task, t.2 ≤ text.size → taskIndex text t / (text.size + 1) = t.1 ∧
      taskIndex text t % (text.size + 1) = t.2 := by
    intro t within
    rw [taskIndex, Nat.mul_comm, Nat.mul_add_div size, Nat.mul_add_mod,
      Nat.div_eq_of_lt (Nat.lt_succ_of_le within), Nat.mod_eq_of_lt (Nat.lt_succ_of_le within)]
    exact ⟨rfl, rfl⟩
  obtain ⟨first, second⟩ := quotient task within
  obtain ⟨first', second'⟩ := quotient task' within'
  exact Prod.ext (by rw [← first, ← first', same]) (by rw [← second, ← second', same])

/-- Only an instruction that there is has a place among the tasks. -/
theorem code_eq_none (outside : p.taskCount text ≤ taskIndex text task)
    (within : task.2 ≤ text.size) : p.code[task.1]? = none := by
  rw [Array.getElem?_eq_none_iff]
  refine Nat.le_of_not_lt fun inside => ?_
  have row : (task.1 + 1) * (text.size + 1) ≤ p.code.size * (text.size + 1) :=
    Nat.mul_le_mul_right _ inside
  rw [taskCount, taskIndex] at outside
  rw [Nat.add_mul] at row
  omega

/-- A step stays at its position, or passes over the character there. -/
theorem position_of_successors {next : Task} (follows : next ∈ p.successors text task) :
    next.2 = task.2 ∨ next.2 = task.2 + 1 ∧ task.2 < text.size := by
  obtain ⟨pc, i⟩ := task
  cases here : p.code[pc]? with
  | none => simp [successors, here] at follows
  | some instruction =>
    cases instruction with
    | char set further =>
      obtain ⟨c, atC, -, rfl⟩ := (successors_char here).mp follows
      exact Or.inr ⟨rfl, (Array.getElem?_eq_some_iff.mp atC).1⟩
    | assert condition further =>
      obtain ⟨-, rfl⟩ := (successors_assert here).mp follows
      exact Or.inl rfl
    | split first second =>
      rcases (successors_split here).mp follows with rfl | rfl
      · exact Or.inl rfl
      · exact Or.inl rfl
    | accept => simp [successors, here] at follows

theorem successors_within (within : task.2 ≤ text.size) :
    ∀ next ∈ p.successors text task, next.2 ≤ text.size := by
  intro next follows
  rcases position_of_successors follows with stays | ⟨passes, inside⟩
  · rw [stays]
    exact within
  · rw [passes]
    exact inside

theorem length_successors_le (task : Task) : (p.successors text task).length ≤ 2 := by
  obtain ⟨pc, i⟩ := task
  have atMostOne (may : Prop) [Decidable may] (next : Task) :
      (if may then [next] else []).length ≤ 2 := by
    by_cases holds : may <;> simp [holds]
  simp only [successors]
  cases p.code[pc]? with
  | none => exact Nat.zero_le _
  | some instruction =>
    cases instruction with
    | char set next =>
      cases text[i]? with
      | none => exact Nat.zero_le _
      | some c => exact atMostOne _ _
    | assert condition next => exact atMostOne _ _
    | split first second => exact Nat.le_refl _
    | accept => exact Nat.zero_le _

theorem dead_of_code_eq_none (outside : p.code[task.1]? = none) : p.Dead text task := by
  rintro stop ⟨steps, accepts⟩
  cases steps with
  | zero => simp [AcceptsIn, Program.accepts, outside] at accepts
  | succ steps => simp [AcceptsIn, successors, outside] at accepts

/-- The tasks that are marked as done are closed, but for those in the stack. -/
structure Settled (p : Program) (text : Array Char) (done : Array Bool) (stack : List Task) :
    Prop where
  size_eq : done.size = p.taskCount text
  within : ∀ task ∈ stack, task.2 ≤ text.size
  rejects : ∀ task, Done text done task → p.accepts task = false
  followed : ∀ task, Done text done task → ∀ next ∈ p.successors text task,
    next ∈ stack ∨ Done text done next ∨ p.code[next.1]? = none

namespace Settled

theorem fresh (p : Program) (text : Array Char) :
    Settled p text (Array.replicate (p.taskCount text) false) [] := by
  have none : ∀ task, ¬ Done text (Array.replicate (p.taskCount text) false) task := by
    rintro task ⟨-, marked⟩
    simp [Array.getElem?_replicate] at marked
  refine ⟨Array.size_replicate, ?_, fun task marked => absurd marked (none task),
    fun task marked => absurd marked (none task)⟩
  simp

theorem push (settled : Settled p text done []) {tasks : List Task}
    (within : ∀ task ∈ tasks, task.2 ≤ text.size) : Settled p text done tasks where
  size_eq := settled.size_eq
  within := within
  rejects := settled.rejects
  followed task marked next follows := by
    rcases settled.followed task marked next follows with waits | closed
    · exact absurd waits List.not_mem_nil
    · exact Or.inr closed

/-- A task that is not marked as open is done or is none of the program. -/
theorem skipped (settled : Settled p text done (task :: stack))
    (closed : done[taskIndex text task]? ≠ some false) :
    Done text done task ∨ p.code[task.1]? = none := by
  have within := settled.within task List.mem_cons_self
  cases marked : done[taskIndex text task]? with
  | none =>
    rw [Array.getElem?_eq_none_iff, settled.size_eq] at marked
    exact Or.inr (code_eq_none marked within)
  | some mark =>
    cases mark with
    | true => exact Or.inl ⟨within, marked⟩
    | false => exact absurd marked closed

theorem pop (settled : Settled p text done (task :: stack))
    (closed : done[taskIndex text task]? ≠ some false) : Settled p text done stack where
  size_eq := settled.size_eq
  within other waits := settled.within other (List.mem_cons_of_mem _ waits)
  rejects := settled.rejects
  followed other marked next follows := by
    rcases settled.followed other marked next follows with waits | closed'
    · rcases List.mem_cons.mp waits with rfl | waits
      · exact Or.inr (settled.skipped closed)
      · exact Or.inl waits
    · exact Or.inr closed'

theorem done_set (open_ : done[taskIndex text task]? = some false) (within : task.2 ≤ text.size)
    (other : Task) : Done text (done.setIfInBounds (taskIndex text task) true) other ↔
      other = task ∨ Done text done other := by
  have inside : taskIndex text task < done.size := (Array.getElem?_eq_some_iff.mp open_).1
  by_cases same : other = task
  · subst same
    refine iff_of_true ⟨within, ?_⟩ (Or.inl rfl)
    rw [Array.getElem?_setIfInBounds_self_of_lt inside]
  · have apart : other.2 ≤ text.size → taskIndex text task ≠ taskIndex text other :=
      fun within' equal => same (taskIndex_inj within' within equal.symm)
    simp only [same, false_or, Done]
    refine and_congr_right fun within' => ?_
    rw [Array.getElem?_setIfInBounds_ne (apart within')]

theorem step (settled : Settled p text done (task :: stack))
    (open_ : done[taskIndex text task]? = some false) (rejects : p.accepts task = false) :
    Settled p text (done.setIfInBounds (taskIndex text task) true)
      (p.successors text task ++ stack) := by
  have within := settled.within task List.mem_cons_self
  have marks := done_set open_ within
  refine ⟨by rw [Array.size_setIfInBounds, settled.size_eq], ?_, ?_, ?_⟩
  · intro other waits
    rcases List.mem_append.mp waits with follows | waits
    · exact successors_within within other follows
    · exact settled.within other (List.mem_cons_of_mem _ waits)
  · intro other marked
    rcases (marks _).mp marked with rfl | marked
    · exact rejects
    · exact settled.rejects other marked
  · intro other marked next follows
    rcases (marks _).mp marked with rfl | marked
    · exact Or.inl (List.mem_append_left _ follows)
    · rcases settled.followed other marked next follows with waits | marked | outside
      · rcases List.mem_cons.mp waits with rfl | waits
        · exact Or.inr (Or.inl ((marks _).mpr (Or.inl rfl)))
        · exact Or.inl (List.mem_append_right _ waits)
      · exact Or.inr (Or.inl ((marks _).mpr (Or.inr marked)))
      · exact Or.inr (Or.inr outside)

/-- When nothing waits, what is done leads nowhere. -/
theorem dead (settled : Settled p text done []) (marked : Done text done task) :
    p.Dead text task := by
  rintro stop ⟨steps, accepts⟩
  induction steps generalizing task with
  | zero =>
    have rejects := settled.rejects task marked
    rw [accepts.1] at rejects
    exact absurd rejects (by decide)
  | succ steps ih =>
    obtain ⟨next, follows, accepts⟩ := accepts
    rcases settled.followed task marked next follows with waits | marked | outside
    · exact absurd waits List.not_mem_nil
    · exact ih marked accepts
    · exact dead_of_code_eq_none outside stop ⟨steps, accepts⟩

end Settled

/-- Marking an open task leaves one open task less. -/
theorem count_open {i : Nat} (open_ : done[i]? = some false) :
    (done.setIfInBounds i true).count false + 1 = done.count false := by
  obtain ⟨inside, open_⟩ := Array.getElem?_eq_some_iff.mp open_
  have occurs : 0 < done.count false := Array.count_pos_iff.mpr (open_ ▸ Array.getElem_mem inside)
  rw [Array.setIfInBounds_def, dif_pos inside, Array.count_set inside, open_]
  change done.count false - 1 + 0 + 1 = done.count false
  omega

/-- A position that an exploration gives is accepted from a task of its stack. -/
theorem explore_sound {fuel stop : Nat} (found : (explore p text fuel stack done).2 = some stop) :
    ∃ task ∈ stack, p.Accepts text stop task := by
  induction fuel generalizing stack done with
  | zero => cases found
  | succ fuel ih =>
    cases stack with
    | nil => cases found
    | cons task stack =>
      rw [explore] at found
      split at found
      · split at found
        · rename_i accepts
          exact ⟨task, List.mem_cons_self, 0, accepts, Option.some.inj found⟩
        · obtain ⟨next, waits, accepts⟩ := ih found
          rcases List.mem_append.mp waits with follows | waits
          · exact ⟨task, List.mem_cons_self, accepts.step follows⟩
          · exact ⟨next, List.mem_cons_of_mem _ waits, accepts⟩
      · obtain ⟨next, waits, accepts⟩ := ih found
        exact ⟨next, List.mem_cons_of_mem _ waits, accepts⟩

/-- An exploration that gives no position has marked its stack and all that follows. Its fuel is
enough for two further tasks with each task that is open, and for those in the stack. -/
theorem explore_settled {fuel : Nat} (settled : Settled p text done stack)
    (enough : 2 * done.count false + stack.length ≤ fuel)
    (nothing : (explore p text fuel stack done).2 = none) :
    Settled p text (explore p text fuel stack done).1 [] ∧
      (∀ task, Done text done task → Done text (explore p text fuel stack done).1 task) ∧
      ∀ task ∈ stack, Done text (explore p text fuel stack done).1 task ∨
        p.code[task.1]? = none := by
  induction fuel generalizing stack done with
  | zero =>
    obtain rfl : stack = [] := List.eq_nil_of_length_eq_zero (by omega)
    exact ⟨settled, fun _ marked => marked, fun _ waits => absurd waits List.not_mem_nil⟩
  | succ fuel ih =>
    cases stack with
    | nil => exact ⟨settled, fun _ marked => marked, fun _ waits => absurd waits List.not_mem_nil⟩
    | cons task stack =>
      rw [explore] at nothing ⊢
      rw [List.length_cons] at enough
      split at nothing
      · rename_i open_
        rw [if_pos open_]
        split at nothing
        · cases nothing
        · rename_i rejects
          rw [if_neg rejects]
          rw [Bool.not_eq_true] at rejects
          have marks := Settled.done_set open_ (settled.within task List.mem_cons_self)
          have fewer := count_open open_
          have few : (p.successors text task).length ≤ 2 := length_successors_le task
          obtain ⟨closed, kept, marked⟩ := ih (settled.step open_ rejects)
            (by rw [List.length_append]; omega) nothing
          refine ⟨closed, fun other old => kept other ((marks _).mpr (Or.inr old)), ?_⟩
          intro other waits
          rcases List.mem_cons.mp waits with rfl | waits
          · exact Or.inl (kept other ((marks _).mpr (Or.inl rfl)))
          · exact marked other (List.mem_append_right _ waits)
      · rename_i closed
        rw [if_neg closed]
        obtain ⟨closed', kept, marked⟩ := ih (settled.pop closed) (by omega) nothing
        refine ⟨closed', kept, ?_⟩
        intro other waits
        rcases List.mem_cons.mp waits with rfl | waits
        · exact (settled.skipped closed).imp_left (kept other)
        · exact marked other waits

/-- What a search from `start` up to `bound` finds: the leftmost position from which acceptance can
be reached, with a position where it is. -/
def Leftmost (p : Program) (text : Array Char) (start bound : Nat) : Option Span → Prop
  | none => ∀ i, start ≤ i → i < bound → p.Dead text (p.start, i)
  | some span => start ≤ span.start ∧ span.start < bound ∧
    p.Accepts text span.stop (p.start, span.start) ∧
    ∀ i, start ≤ i → i < span.start → p.Dead text (p.start, i)

theorem Leftmost.earlier {start bound : Nat} {found : Option Span}
    (later : p.Leftmost text (start + 1) bound found) (dead : p.Dead text (p.start, start)) :
    p.Leftmost text start bound found := by
  have sooner : ∀ limit, (∀ i, start + 1 ≤ i → i < limit → p.Dead text (p.start, i)) →
      ∀ i, start ≤ i → i < limit → p.Dead text (p.start, i) := by
    intro limit later i low high
    rcases Nat.eq_or_lt_of_le low with rfl | low
    · exact dead
    · exact later i low high
  cases found with
  | none => exact sooner bound later
  | some span =>
    obtain ⟨low, high, accepts, none⟩ := later
    exact ⟨Nat.le_of_succ_le low, high, accepts, sooner span.start none⟩

theorem firstFrom_leftmost {left start : Nat} (settled : Settled p text done [])
    (within : start + left ≤ text.size + 1) :
    p.Leftmost text start (start + left) (firstFrom p text left start done) := by
  induction left generalizing start done with
  | zero => exact fun i low high => absurd low (Nat.not_le_of_lt high)
  | succ left ih =>
    have pushed : Settled p text done [(p.start, start)] :=
      settled.push (by simp only [List.mem_singleton, forall_eq]; omega)
    have enough : 2 * done.count false + [(p.start, start)].length ≤ 3 * p.taskCount text + 2 := by
      have bounded : done.count false ≤ done.size := Array.count_le_size
      rw [settled.size_eq] at bounded
      rw [List.length_singleton]
      omega
    rw [firstFrom]
    cases found : explore p text (3 * p.taskCount text + 2) [(p.start, start)] done with
    | mk done' stop? =>
      cases stop? with
      | some stop =>
        obtain ⟨task, waits, accepts⟩ := explore_sound (congrArg Prod.snd found)
        obtain rfl := List.mem_singleton.mp waits
        exact ⟨Nat.le_refl _, by dsimp only; omega, accepts,
          fun i low high => absurd low (Nat.not_le_of_lt high)⟩
      | none =>
        obtain ⟨settled', -, marked⟩ := explore_settled pushed enough (congrArg Prod.snd found)
        rw [found] at settled' marked
        have here : p.Dead text (p.start, start) := by
          rcases marked _ (List.mem_singleton.mpr rfl) with marked | outside
          · exact settled'.dead marked
          · exact dead_of_code_eq_none outside
        rw [Nat.add_comm left, ← Nat.add_assoc] at within ⊢
        exact (ih settled' within).earlier here

/-- The match that is searched for first is the leftmost one, and there is one if there is any. -/
theorem first?_leftmost (p : Program) (text : Array Char) {start : Nat}
    (within : start ≤ text.size + 1) :
    p.Leftmost text start (text.size + 1) (p.first? text start) := by
  have whole : start + (text.size + 1 - start) = text.size + 1 := Nat.add_sub_cancel' within
  have searched := firstFrom_leftmost (Settled.fresh p text) (Nat.le_of_eq whole)
  rwa [whole] at searched

theorem spans_ne_nil_iff (p : Program) (text : Array Char) :
    p.spans text ≠ [] ↔ ∃ i ≤ text.size, ∃ stop, p.Accepts text stop (p.start, i) := by
  have leftmost := first?_leftmost p text (Nat.zero_le _)
  rw [spans, matchesFrom, if_neg (Nat.not_lt_zero _)]
  cases found : p.first? text 0 with
  | none =>
    rw [found] at leftmost
    refine iff_of_false (fun filled => filled rfl) ?_
    rintro ⟨i, within, stop, accepts⟩
    exact leftmost i (Nat.zero_le i) (Nat.lt_succ_of_le within) stop accepts
  | some span =>
    rw [found] at leftmost
    obtain ⟨-, within, accepts, -⟩ := leftmost
    exact iff_of_true (by simp) ⟨span.start, Nat.le_of_lt_succ within, span.stop, accepts⟩

end FixGrader.Regex.Program

namespace FixGrader.Regex

/-- A pattern is found in a text exactly if it can match some part of it. -/
theorem findAll_ne_nil_iff {source : String} {n : Node}
    (reads : (Node.ofText source).toOption = some n) (text : List Char) :
    (Regex.known source).findAll text.toArray ≠ [] ↔
      ∃ before taken after, text = before ++ (taken ++ after) ∧ n.Takes before taken after := by
  have compiled : (Regex.known source).program = Program.ofNode n := by
    cases read : Node.ofText source with
    | error e =>
      rw [read] at reads
      cases reads
    | ok m =>
      rw [read] at reads
      obtain rfl : m = n := Option.some.inj reads
      simp only [Regex.known, compile, read]
      rfl
  rw [findAll, compiled, Program.spans_ne_nil_iff]
  constructor
  · rintro ⟨i, within, stop, accepts⟩
    obtain ⟨before, taken, after, split, -, -, takes⟩ :=
      (Program.accepts_ofNode n within).mp accepts
    exact ⟨before, taken, after, split, takes⟩
  · rintro ⟨before, taken, after, split, takes⟩
    have spans : n.Takes.Spans text before.length (before.length + taken.length) :=
      ⟨before, taken, after, split, rfl, rfl, takes⟩
    have within : before.length ≤ text.toArray.size := Nat.le_trans spans.le.1 spans.le.2
    exact ⟨_, within, _, (Program.accepts_ofNode n within).mpr spans⟩

end FixGrader.Regex
