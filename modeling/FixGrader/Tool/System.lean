import FixGrader.Tool.Supervision
import FixGrader.World
/-!
# Starting programs

The runner that starts programs and waits for them. What a program does is left open: when it ends
and closes its streams, what it writes, and what it makes of the files. A program that cannot be
found is not installed; one that is found, but cannot be started, is another failure.
-/
namespace FixGrader

/-- A program that was started. -/
structure Process where
  course : Supervision.Course
  /-- The exit status; none if a signal ends the program. -/
  exitStatus : Option Int
  stdout : String
  stderr : String
  /-- The files afterwards. -/
  disk : Disk

/-- What comes of waiting for a program that was started. -/
def Process.respond (p : Process) (i : Invocation) (events : List Log.Event) : Tool.Response :=
  match Supervision.supervise i.timeout p.course with
  | some (.exited, _) => ⟨.ok ⟨p.exitStatus, p.stdout, p.stderr⟩, p.disk, events, true⟩
  | some (.timedOut, _) => ⟨.error (.timedOut i.program i.timeout), p.disk, events, true⟩
  | none => ⟨.error (.timedOut i.program i.timeout), p.disk, events, false⟩

namespace Runner

/-- The event that a program is started. -/
def startEvent (i : Invocation) : Log.Event :=
  ⟨.debug, Log.Target.tools, "spawning external tool", [("command", .shown i.display)]⟩

/-- The runner that starts programs in a way of its own. -/
def system (start : List Invocation → Disk → Invocation → Except FileError Process) : Runner :=
  fun calls disk i =>
    match start calls disk i with
    | .error .notFound => ⟨.error (.unavailable i.program), disk, [startEvent i], true⟩
    | .error e => ⟨.error (.spawn i.program e), disk, [startEvent i], true⟩
    | .ok p => p.respond i [startEvent i]

end Runner

end FixGrader
