/-!
# Waiting for a program

A program is looked at every fifty milliseconds until it has ended or its time is over, in which
case it is killed. The output of a program that has ended is read to its end, that is, until no one
holds its two streams open any more; a program that it has started may still do so.
-/
namespace FixGrader.Supervision

/-- When a program ends and when its streams are closed for good, in milliseconds after its start;
none for what never happens. -/
structure Course where
  exit : Option Nat
  stdoutClosed : Option Nat
  stderrClosed : Option Nat
  deriving DecidableEq, Repr, Inhabited

inductive Ending where
  | exited
  | timedOut
  deriving DecidableEq, Repr, Inhabited

/-- The time between two looks. -/
def interval : Nat := 50

/-- Whether something has happened by a time. -/
def happened (event : Option Nat) (now : Nat) : Bool := event.any fun t => decide (t ≤ now)

/-- Looks at a program from a time on, `looks` more times after the first one. -/
def watch (timeout : Nat) (exit : Option Nat) : Nat → Nat → Ending × Nat
  | looks, now =>
    if happened exit now then (.exited, now)
    else if timeout ≤ now then (.timedOut, now)
    else
      match looks with
      | 0 => (.timedOut, now)
      | looks + 1 => watch timeout exit looks (now + interval)

/-- How many looks follow the first one until the time is over. -/
def looks (timeout : Nat) : Nat := timeout / interval + 1

/-- How and when a program is done with; none if that never happens. -/
def supervise (timeout : Nat) (c : Course) : Option (Ending × Nat) :=
  match watch timeout c.exit (looks timeout) 0 with
  | (.timedOut, now) => some (.timedOut, now)
  | (.exited, now) =>
    match c.stdoutClosed, c.stderrClosed with
    | some out, some err => some (.exited, max now (max out err))
    | _, _ => none

end FixGrader.Supervision
