import FixGrader.Host.System
import FixGrader.Proofs.Tool.Supervision
import FixGrader.Proofs.Validation.Calls
/-!
# Calls of programs that are started

What is known of waiting for a program, told of the calls of a runner: a call ends exactly if the
program was not seen to end or lets go of both of its streams, and then it yields the output of a
program that was seen to end, and else says that its time was over. The programs of this system
always let go of their streams, so that no call of theirs goes on for ever.
-/
namespace FixGrader
open Supervision

/-- A program that, if it is seen to end, leaves no one behind who holds its streams open. -/
def Process.LetsGo (p : Process) (timeout : Nat) : Prop :=
  happened p.course.exit (firstLook timeout) = true →
    p.course.stdoutClosed.isSome = true ∧ p.course.stderrClosed.isSome = true

namespace Process
variable (p : Process) (i : Invocation) (events : List Log.Event)

theorem respond_unseen (unseen : happened p.course.exit (firstLook i.timeout) = false) :
    p.respond i events = ⟨.error (.timedOut i.program i.timeout), p.disk, events, true⟩ := by
  rw [respond, supervise_unseen unseen]

theorem respond_seen (seen : happened p.course.exit (firstLook i.timeout) = true)
    (closed : p.course.stdoutClosed.isSome = true ∧ p.course.stderrClosed.isSome = true) :
    p.respond i events = ⟨.ok ⟨p.exitStatus, p.stdout, p.stderr⟩, p.disk, events, true⟩ := by
  obtain ⟨t, ends, early⟩ := happened_iff.mp seen
  obtain ⟨out, outClosed⟩ := Option.isSome_iff_exists.mp closed.1
  obtain ⟨err, errClosed⟩ := Option.isSome_iff_exists.mp closed.2
  rw [respond, supervise_seen ends early, outClosed, errClosed]
  rfl

theorem respond_ends_iff : (p.respond i events).ends = true ↔ p.LetsGo i.timeout := by
  unfold LetsGo
  cases seen : happened p.course.exit (firstLook i.timeout) with
  | false =>
    rw [respond_unseen p i events seen]
    simp
  | true =>
    by_cases closed : p.course.stdoutClosed.isSome = true ∧ p.course.stderrClosed.isSome = true
    · rw [respond_seen p i events seen closed]
      simp [closed]
    · obtain ⟨t, ends, early⟩ := happened_iff.mp seen
      have held : supervise i.timeout p.course = none := by
        rw [supervise_seen ends early]
        cases out : p.course.stdoutClosed <;> cases err : p.course.stderrClosed <;> simp_all
      rw [respond, held]
      simp [closed]

end Process

namespace Runner
variable {start : List Invocation → Disk → Invocation → Except FileError Process}
variable {calls : List Invocation} {disk : Disk} {i : Invocation}

/-- A call ends exactly if no program was started, or the one that was lets go of its streams. -/
theorem system_ends_iff : (system start calls disk i).ends = true ↔
    ∀ p, start calls disk i = .ok p → p.LetsGo i.timeout := by
  unfold system
  cases started : start calls disk i with
  | error e => cases e <;> simp
  | ok p => simpa using p.respond_ends_iff i [startEvent i]

/-- A call that ends fails if no program could be started or its time was over, and else yields the
output of the program. -/
theorem system_result (ends : (system start calls disk i).ends = true) :
    match start calls disk i with
    | .error e => ∃ failure, (system start calls disk i).result = .error failure ∧
        (failure = .unavailable i.program ↔ e = .notFound)
    | .ok p => (system start calls disk i).result =
        if happened p.course.exit (firstLook i.timeout) then .ok ⟨p.exitStatus, p.stdout, p.stderr⟩
        else .error (.timedOut i.program i.timeout) := by
  have closed := system_ends_iff.mp ends
  unfold system
  cases started : start calls disk i with
  | error e => cases e <;> exact ⟨_, rfl, by simp⟩
  | ok p =>
    dsimp only
    cases seen : happened p.course.exit (firstLook i.timeout) with
    | false => rw [p.respond_unseen i _ seen, if_neg Bool.false_ne_true]
    | true => rw [p.respond_seen i _ seen (closed p started seen), if_pos rfl]

end Runner

namespace Host

/-- A program of this system lets go of its streams when it ends, or goes on for ever itself. -/
theorem courseOf_closed (s : Shell) (runs : (courseOf s).exit.isSome = true) :
    (courseOf s).stdoutClosed.isSome = true ∧ (courseOf s).stderrClosed.isSome = true := by
  unfold courseOf at runs ⊢
  by_cases endless : s.halt = some .endless
  · rw [if_pos endless] at runs
    cases runs
  · rw [if_neg endless]
    exact ⟨rfl, rfl⟩

theorem process_letsGo {disk : Disk} {i : Invocation} {p : Process}
    (started : process disk i = .ok p) (timeout : Nat) : p.LetsGo timeout := by
  unfold process at started
  cases found : start disk i with
  | error e =>
    rw [found] at started
    cases started
  | ok program =>
    rw [found] at started
    simp only [Except.map, Except.ok.injEq] at started
    subst started
    intro seen
    obtain ⟨t, ends, -⟩ := happened_iff.mp seen
    exact courseOf_closed _ (Option.isSome_iff_exists.mpr ⟨t, ends⟩)

theorem runner_alwaysEnds : runner.AlwaysEnds :=
  fun _ _ i => Runner.system_ends_iff.mpr fun _ started => process_letsGo started i.timeout

end Host

end FixGrader
