import FixGrader.Log.Event
import FixGrader.Tool.Invocation
/-!
# What a check acts on

A check reads and writes files, calls programs and notes events. All three are kept in one value
that is passed on from step to step: the files, the calls so far and the events so far. How a call
of a program is answered is left to a runner. A call may also never be answered; then the check
never ends, which is noted as well, and what it would have done behind that call does not matter.
-/
namespace FixGrader

structure World where
  disk : Disk
  /-- The calls of programs so far, the first one first. -/
  calls : List Invocation
  events : List Log.Event
  /-- Whether every call so far has ended. Behind one that never does nothing takes place. -/
  ends : Bool
  deriving Inhabited

def World.ofDisk (disk : Disk) : World := ⟨disk, [], [], true⟩

/-- A step that may change the world. -/
abbrev Run := StateM World

/-- What comes of a call: its result, the files afterwards, events that it notes, and whether it
ends at all. The result of a call that never ends is of no account. -/
structure Tool.Response where
  result : Except Tool.Failure Tool.Output
  disk : Disk
  events : List Log.Event
  ends : Bool

/-- How calls are answered, given the calls before and the files. -/
abbrev Runner := List Invocation → Disk → Invocation → Tool.Response

namespace Run

/-- Notes an event. -/
def note (level : Log.Level) (target message : String) (fields : List (String × Log.Value)) :
    Run Unit :=
  modify fun w => { w with events := w.events ++ [⟨level, target, message, fields⟩] }

def debug : String → String → List (String × Log.Value) → Run Unit := note .debug

def info : String → String → List (String × Log.Value) → Run Unit := note .info

def warn : String → String → List (String × Log.Value) → Run Unit := note .warn

def disk : Run Disk := do return (← get).disk

def setDisk (d : Disk) : Run Unit := modify fun w => { w with disk := d }

end Run

namespace Runner

/-- Calls a program. -/
def call (runner : Runner) (i : Invocation) : Run (Except Tool.Failure Tool.Output) := fun w =>
  let response := runner w.calls w.disk i
  (response.result,
    { disk := response.disk, calls := w.calls ++ [i], events := w.events ++ response.events,
      ends := w.ends && response.ends })

/-- Finds out whether a program is there: it has to end well when asked for its version. -/
def probe (runner : Runner) (program : String) (timeout : Nat) :
    Run (Except Tool.Failure Unit) := do
  match ← runner.call (.probe program timeout) with
  | .error failure => return .error failure
  | .ok output => return if output.success then .ok () else .error (.unavailable program)

/-- A runner whose answers are given beforehand, one for each call; when they run out, programs are
not there. An answer is made for the call that gets it, and no file is changed. -/
def scripted (replies : List (Invocation → Except Tool.Failure Tool.Output)) : Runner :=
  fun calls disk i =>
    let result := match replies[calls.length]? with
      | some reply => reply i
      | none => .error (.unavailable i.program)
    ⟨result, disk, [], true⟩

end Runner

end FixGrader
