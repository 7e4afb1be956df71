import FixGrader.Tool.Supervision
/-!
# When a call of a program ends

The looks at a program stop at the first one by which it has ended or its time is over, so that a
program which goes on running is given up less than an interval late. The output of a program that
was seen to end is read until both of its streams are closed, and no time limits that: such a call
ends only if whoever holds the streams lets go of them, and in time only if they do so in time.
-/
namespace FixGrader.Supervision

/-- How many looks come before the first one at a time or after it. -/
def looksBefore (t : Nat) : Nat := (t + interval - 1) / interval

def firstLook (t : Nat) : Nat := looksBefore t * interval

theorem looksBefore_le_iff (t n : Nat) : looksBefore t ≤ n ↔ t ≤ n * interval := by
  simp only [looksBefore, show interval = 50 from rfl]
  omega

theorem le_firstLook (t : Nat) : t ≤ firstLook t := (looksBefore_le_iff t _).mp (Nat.le_refl _)

theorem firstLook_lt (t : Nat) : firstLook t < t + interval := by
  simp only [firstLook, looksBefore, show interval = 50 from rfl]
  omega

theorem firstLook_le_iff (s t : Nat) : firstLook s ≤ firstLook t ↔ s ≤ firstLook t := by
  constructor
  · intro earlier
    have reached := le_firstLook s
    omega
  · intro reached
    exact Nat.mul_le_mul_right interval ((looksBefore_le_iff s _).mpr reached)

theorem looksBefore_le_looks (timeout : Nat) : looksBefore timeout ≤ looks timeout := by
  simp only [looksBefore, looks, show interval = 50 from rfl]
  omega

theorem happened_iff {event : Option Nat} {now : Nat} :
    happened event now = true ↔ ∃ t, event = some t ∧ t ≤ now := by
  cases event <;> simp [happened]

theorem not_happened_iff {event : Option Nat} {now : Nat} :
    happened event now = false ↔ ∀ t, event = some t → now < t := by
  cases event <;> simp [happened]

section Looks
variable {timeout : Nat} {exit : Option Nat} {now : Nat}

theorem watch_ended (ended : happened exit now = true) (looks : Nat) :
    watch timeout exit looks now = (.exited, now) := by
  cases looks <;> simp [watch, ended]

theorem watch_over (running : happened exit now = false) (late : timeout ≤ now) (looks : Nat) :
    watch timeout exit looks now = (.timedOut, now) := by
  cases looks <;> simp [watch, running, late]

theorem watch_again (running : happened exit now = false) (left : now < timeout) (looks : Nat) :
    watch timeout exit (looks + 1) now = watch timeout exit looks (now + interval) := by
  have early : ¬ timeout ≤ now := by omega
  simp [watch, running, early]

/-- As long as the program runs and its time is not over, each look is followed by the next one. -/
theorem watch_skip (n rest : Nat)
    (waits : ∀ j < n, happened exit (j * interval) = false ∧ j * interval < timeout) :
    watch timeout exit (n + rest) 0 = watch timeout exit rest (n * interval) := by
  induction n generalizing rest with
  | zero => simp
  | succ n ih =>
    obtain ⟨running, left⟩ := waits n (by omega)
    have before := ih (rest + 1) fun j earlier => waits j (by omega)
    rw [Nat.add_right_comm, Nat.add_assoc, before, watch_again running left, Nat.succ_mul]

end Looks

/-- The first looks of all, up to one that the number of looks allows for. -/
theorem watch_skip_before (timeout : Nat) (exit : Option Nat) {n : Nat}
    (within : n ≤ looksBefore timeout) (running : ∀ t, exit = some t → n ≤ looksBefore t) :
    watch timeout exit (looks timeout) 0 =
      watch timeout exit (looks timeout - n) (n * interval) := by
  have enough := looksBefore_le_looks timeout
  have waits : ∀ j < n, happened exit (j * interval) = false ∧ j * interval < timeout := by
    intro j earlier
    have before_end : ∀ t, looksBefore t ≤ j ↔ t ≤ j * interval := fun t => looksBefore_le_iff t j
    constructor
    · refine not_happened_iff.mpr fun t ends => ?_
      have later := running t ends
      have := before_end t
      omega
    · have := before_end timeout
      omega
  have split : looks timeout = n + (looks timeout - n) := by omega
  rw [split, watch_skip n _ waits, Nat.add_sub_cancel_left]

/-- A program that has ended by the last look is found so at the first look after its end. -/
theorem watch_seen {timeout t : Nat} (seen : t ≤ firstLook timeout) :
    watch timeout (some t) (looks timeout) 0 = (.exited, firstLook t) := by
  have within : looksBefore t ≤ looksBefore timeout := (looksBefore_le_iff t _).mpr seen
  rw [watch_skip_before timeout (some t) within fun t' same => by cases same; exact Nat.le_refl _]
  exact watch_ended (happened_iff.mpr ⟨t, rfl, le_firstLook t⟩) _

/-- A program that still runs at the last look is given up there. -/
theorem watch_unseen {timeout : Nat} {exit : Option Nat}
    (unseen : happened exit (firstLook timeout) = false) :
    watch timeout exit (looks timeout) 0 = (.timedOut, firstLook timeout) := by
  have running : ∀ t, exit = some t → looksBefore timeout ≤ looksBefore t := by
    intro t ends
    have later : firstLook timeout < t := not_happened_iff.mp unseen t ends
    have reached : looksBefore t ≤ looksBefore timeout ↔ t ≤ firstLook timeout :=
      looksBefore_le_iff t (looksBefore timeout)
    omega
  rw [watch_skip_before timeout exit (Nat.le_refl _) running]
  exact watch_over unseen (le_firstLook timeout) _

theorem supervise_unseen {timeout : Nat} {c : Course}
    (unseen : happened c.exit (firstLook timeout) = false) :
    supervise timeout c = some (.timedOut, firstLook timeout) := by
  rw [supervise, watch_unseen unseen]

/-- The call of a program that was seen to end lasts until both streams are closed. -/
theorem supervise_seen {timeout t : Nat} {c : Course} (ends : c.exit = some t)
    (seen : t ≤ firstLook timeout) :
    supervise timeout c = c.stdoutClosed.bind fun out =>
      c.stderrClosed.map fun err => (.exited, max (firstLook t) (max out err)) := by
  rw [supervise, ends, watch_seen seen]
  cases c.stdoutClosed with
  | none => rfl
  | some out => cases c.stderrClosed <;> rfl

/-- A program is waited for no longer than to the first look after its time, less than an interval
late, and is reported to have ended exactly if it has by then. But its call ends exactly if it was
not seen to end or both of its streams are closed at some time, and ends by the last look exactly if
it was not seen to end or both of its streams are closed by then. -/
theorem supervise_ends_iff (timeout : Nat) (c : Course) :
    ((watch timeout c.exit (looks timeout) 0).1 = .exited ↔
        happened c.exit (firstLook timeout) = true) ∧
      (watch timeout c.exit (looks timeout) 0).2 ≤ firstLook timeout ∧
      firstLook timeout < timeout + interval ∧
      ((∃ call, supervise timeout c = some call) ↔
        (happened c.exit (firstLook timeout) = true →
          c.stdoutClosed.isSome = true ∧ c.stderrClosed.isSome = true)) ∧
      ((∃ call, supervise timeout c = some call ∧ call.2 ≤ firstLook timeout) ↔
        (happened c.exit (firstLook timeout) = true →
          happened c.stdoutClosed (firstLook timeout) = true ∧
            happened c.stderrClosed (firstLook timeout) = true)) := by
  cases exited : happened c.exit (firstLook timeout) with
  | false =>
    rw [watch_unseen exited, supervise_unseen exited]
    refine ⟨by simp, Nat.le_refl _, firstLook_lt timeout, ?_, ?_⟩
    · exact iff_of_true ⟨_, rfl⟩ (by simp)
    · exact iff_of_true ⟨_, rfl, Nat.le_refl _⟩ (by simp)
  | true =>
    obtain ⟨t, ends, seen⟩ := happened_iff.mp exited
    have look : firstLook t ≤ firstLook timeout := (firstLook_le_iff t timeout).mpr seen
    rw [supervise_seen ends seen, ends, watch_seen seen]
    refine ⟨by simp, look, firstLook_lt timeout, ?_, ?_⟩
    · cases c.stdoutClosed <;> cases c.stderrClosed <;> simp
    · cases c.stdoutClosed with
      | none => simp [happened]
      | some out =>
        cases c.stderrClosed with
        | none => simp [happened]
        | some err =>
          have closed : max (firstLook t) (max out err) ≤ firstLook timeout ↔
              out ≤ firstLook timeout ∧ err ≤ firstLook timeout := by omega
          simpa [happened] using closed

/-- A program ends in time, but another one that it has started holds a stream open: for ever, and the
call does not end, or for five seconds, and the call ends long after its time. -/
theorem supervise_held :
    supervise 200 ⟨some 100, none, some 100⟩ = none ∧
      supervise 200 ⟨some 100, some 5000, some 100⟩ = some (.exited, 5000) ∧
      firstLook 200 = 200 := by
  decide

end FixGrader.Supervision
