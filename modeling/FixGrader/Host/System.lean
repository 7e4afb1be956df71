import FixGrader.Host.Evaluation
import FixGrader.Tool.System
/-!
# The programs of a system

How a program comes to run on this system: it is found, and it runs in its directory with its
environment, on the files as it finds them.
-/
namespace FixGrader.Host

/-- How deep the commands of a script may be nested, loops counted by their rounds. -/
def depth : Nat := 100000

/-- Whether a text of a call has a zero byte, which no program can be given. -/
def hasZero (i : Invocation) : Bool :=
  let zero (s : String) : Bool := s.toList.contains '\x00'
  zero i.program || i.args.any zero || i.env.any (fun (k, v) => zero k || zero v) ||
    i.cwd.any fun p => zero p.text

/-- The directory in which a program runs. -/
def directoryOf (disk : Disk) (i : Invocation) : Except FileError Place := do
  match i.cwd with
  | none => return disk.cwd
  | some path =>
    let place ← disk.locate path
    match disk.entry? place with
    | some (.directory _) => return place
    | some (.file ..) => throw .notADirectory
    | none => throw .notFound

/-- Finds the program of a call, on the disk as the program sees it. -/
def start (disk : Disk) (i : Invocation) : Except FileError (Disk × Executable) := do
  if hasZero i then throw (.other "nul byte found in provided data")
  let disk := { disk with cwd := ← directoryOf disk i }
  return (disk, ← Executable.find disk i.program)

/-- A shell that is about to carry out a program. -/
def freshShell (disk : Disk) (i : Invocation) : Shell where
  name := ByteText.ofString i.program
  bindings := i.env.map fun (k, v) => (ByteText.ofString k, ByteText.ofString v)
  exported := i.env.map fun (k, _) => ByteText.ofString k
  disk

/-- What a program has written to one of its streams. -/
def outputOf (s : Shell) (stream : Nat) : String := Shell.textOf (s.textOfStream stream)

/-- When a program ends and closes its streams. -/
def courseOf (s : Shell) : Supervision.Course :=
  let exit := max 1 s.elapsed
  let closed := max exit s.backgroundEnd
  if s.halt = some .endless then ⟨none, none, none⟩ else ⟨some exit, some closed, some closed⟩

/-- The exit status that a program leaves; none if a signal ended it. -/
def statusOf (s : Shell) : Option Int :=
  match s.halt with
  | some (.killed _) => none
  | some (.exit n) => some n
  | _ => some s.status

/-- The shell after it has carried out a program. -/
def carriedOut (program : Disk × Executable) (i : Invocation) : Shell :=
  let shell := freshShell program.1 i
  ((Shell.launch depth shell.name program.2 (i.args.map ByteText.ofString)).run shell).2

/-- What the caller sees of a program, in the directory that it is in itself. -/
def processOf (cwd : Place) (s : Shell) : Process :=
  ⟨courseOf s, statusOf s, outputOf s 1, outputOf s 2, { s.disk with cwd }⟩

/-- Starts the program of a call and lets it run to its end. -/
def process (disk : Disk) (i : Invocation) : Except FileError Process :=
  (start disk i).map fun program => processOf disk.cwd (carriedOut program i)

/-- The runner that starts the programs of this system. -/
def runner : Runner := .system fun _ => process

end FixGrader.Host
