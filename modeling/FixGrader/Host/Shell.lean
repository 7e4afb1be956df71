import FixGrader.Host.Executable
import FixGrader.Host.Glob
import FixGrader.Host.Program
/-!
# Shells

The state of a running program: what it knows, the files it works on, where its streams lead, what
was written at which time, and why it stops. What happens at the same time is carried out one after
the other; the times tell in which order it was written.
-/
namespace FixGrader.Host

/-- Why a program stops before its last command. -/
inductive Halt where
  | exit (status : Nat)
  /-- A signal ends it. -/
  | killed (signal : Nat)
  /-- It never stops. -/
  | endless
  /-- Some loops are left; the last one goes on with its next round if `again`. -/
  | leave (loops : Nat) (again : Bool)
  /-- A function is left. -/
  | returned (status : Nat)
  deriving DecidableEq, Repr, Inhabited

/-- Where a stream leads. -/
inductive Sink where
  | stream (number : Nat)
  | file (path : Path)
  | nothing
  deriving Inhabited

/-- A text that was written to a stream at some time. -/
structure Piece where
  time : Nat
  stream : Nat
  text : ByteText
  deriving Inhabited

/-- The options `e`, `u` and `x` of a shell. -/
structure ShellOptions where
  /-- The first failure ends the script. -/
  strict : Bool := false
  /-- A variable without a value is an error. -/
  defined : Bool := false
  /-- Commands are shown before they are carried out. -/
  traced : Bool := false
  deriving Inhabited

/-- Sets an option by its letter; some have no effect on a script. -/
def ShellOptions.set? (o : ShellOptions) (letter : Char) (value : Bool) : Option ShellOptions :=
  match letter with
  | 'e' => some { o with strict := value }
  | 'u' => some { o with defined := value }
  | 'x' => some { o with traced := value }
  | _ => if "abCfhimnpvEIV".toList.contains letter then some o else none

structure Shell where
  name : ByteText
  parameters : List ByteText := []
  bindings : List (ByteText × ByteText) := []
  /-- The variables that programs get to see. -/
  exported : List ByteText := []
  functions : List (ByteText × Command) := []
  options : ShellOptions := {}
  /-- Whether the outcome of a command is looked at, so that a failure does not end the script. -/
  shielded : Bool := false
  /-- How many loops are under way. -/
  loops : Nat := 0
  /-- What is carried out for a signal, or at the end for the number zero. -/
  traps : List (Nat × ByteText) := []
  /-- What is to be carried out for a signal that has come. -/
  pending : Option ByteText := none
  disk : Disk
  input : ByteText := []
  sinks : Nat → Sink := .stream
  /-- The next number for a stream of a pipe. -/
  nextStream : Nat := 3
  /-- What was written, the last piece first. -/
  written : List Piece := []
  status : Nat := 0
  /-- The line of the command under way, and the last line of its script. -/
  line : Nat := 1
  lastLine : Nat := 1
  /-- The milliseconds that have passed. -/
  elapsed : Nat := 0
  /-- When the last of the commands in the background ends, and the status of the last one. -/
  backgroundEnd : Nat := 0
  backgroundStatus : Nat := 0
  halt : Option Halt := none
  deriving Inhabited

abbrev Sh := StateM Shell

namespace Shell

def textOf (t : ByteText) : String := Text.ofBytesLossy (ByteText.toBytes t)

def pathOf (t : ByteText) : Path := ⟨textOf t⟩

/-- Adds a text at the end of a file. -/
def appendFile (path : Path) (t : ByteText) : Sh Unit := do
  let s ← get
  let old := (s.disk.readBytes path).toOption.getD .empty
  match s.disk.writeBytes path (old ++ ByteText.toBytes t) with
  | .ok disk => set { s with disk }
  | .error _ => return

def write (stream : Nat) (text : ByteText) : Sh Unit := do
  let s ← get
  if text.isEmpty then return
  else
    match s.sinks stream with
    | .stream n => set { s with written := ⟨s.elapsed, n, text⟩ :: s.written }
    | .file path => appendFile path text
    | .nothing => return

def print (text : ByteText) : Sh Unit := write 1 text

def setStatus (n : Nat) : Sh Unit := modify fun s => { s with status := n }

/-- Writes to the output, and all is well. -/
def answer (text : ByteText) : Sh Unit := do
  print text
  setStatus 0

/-- Gives a status, with a message to the error stream. -/
def fail (n : Nat) (message : String) : Sh Unit := do
  write 2 (ByteText.ofString message)
  setStatus n

/-- Gives a status, with a message that names the shell and the line. -/
def report (n : Nat) (message : String) : Sh Unit := do
  let s ← get
  fail n (textOf s.name ++ ": " ++ toString s.line ++ ": " ++ message ++ "\n")

def stop (h : Halt) : Sh Unit := modify fun s => { s with halt := some h }

/-- Ends the script with a message. -/
def abort (message : String) : Sh Unit := do
  report 2 message
  stop (.exit 2)

def isRunning : Sh Bool := do return (← get).halt.isNone

def wait (milliseconds : Nat) : Sh Unit :=
  modify fun s => { s with elapsed := s.elapsed + milliseconds }

/-- What was written to a stream, in the order of the times. -/
def textOfStream (s : Shell) (stream : Nat) : ByteText :=
  let pieces := s.written.reverse.filter (·.stream = stream)
  (pieces.mergeSort fun a b => a.time ≤ b.time).flatMap (·.text)

/-- Carries out an action whose output does not go on but is given. -/
def captured (action : Sh Unit) : Sh ByteText := do
  let before ← get
  let own := before.nextStream
  set {
    before with
    nextStream := own + 1
    sinks := fun n => if n = 1 then .stream own else before.sinks n }
  action
  let s ← get
  set { s with sinks := before.sinks, written := s.written.filter (·.stream != own) }
  return s.textOfStream own

/-- Carries out an action that leaves all but the files and the time alone, and whose exit is no
exit of the shell. -/
def apart (action : Sh Unit) : Sh Unit := do
  let before ← get
  set { before with traps := before.traps.filter (·.2.isEmpty), loops := 0 }
  action
  let s ← get
  set {
    before with
    disk := { s.disk with cwd := before.disk.cwd }
    input := s.input
    nextStream := s.nextStream
    written := s.written
    elapsed := s.elapsed
    backgroundEnd := s.backgroundEnd
    status := match s.halt with
      | some (.exit n) | some (.returned n) => n
      | _ => s.status
    halt := match s.halt with
      | some (.killed n) => some (.killed n)
      | some .endless => some .endless
      | _ => none }

/-- Carries out an action whose outcome is looked at. -/
def shield (action : Sh Unit) : Sh Unit := do
  let before := (← get).shielded
  modify fun s => { s with shielded := true }
  action
  modify fun s => { s with shielded := before }

/-- Ends a strict script after a failure that nobody looks at. -/
def checkFailure : Sh Unit := do
  let s ← get
  if s.options.strict && !s.shielded && s.status != 0 && s.halt.isNone then stop (.exit s.status)

/-- The number under which a shell knows itself. -/
def processId : ByteText := "1000".toList

/-- The number of the last command in the background. -/
def backgroundId : ByteText := "1001".toList

def cwdText (s : Shell) : ByteText :=
  ByteText.ofString ("/" ++ String.intercalate "/" s.disk.cwd)

/-- The value of a variable or of a special parameter. -/
def value? (s : Shell) (name : ByteText) : Option ByteText :=
  match name with
  | ['?'] => some (toString s.status).toList
  | ['#'] => some (toString s.parameters.length).toList
  | ['$'] => some processId
  | ['!'] => some backgroundId
  | ['-'] => some []
  | ['0'] => some s.name
  | ['@'] | ['*'] => some (Program.joined s.parameters)
  | _ =>
    if !name.isEmpty && name.all Char.isDigit then
      s.parameters[((Arithmetic.ofDigits? 10 name).getD 0) - 1]?
    else
      match s.bindings.find? (·.1 = name) with
      | some (_, value) => some value
      | none => if name = "PWD".toList then some s.cwdText else none

def setVariable (name value : ByteText) : Sh Unit :=
  modify fun s => { s with bindings := (name, value) :: s.bindings.filter (·.1 != name) }

/-- What a program gets to see of the variables. -/
def environment (s : Shell) : List (ByteText × ByteText) :=
  s.bindings.filter fun v => s.exported.contains v.1

def trapFor? (s : Shell) (signal : Nat) : Option ByteText :=
  (s.traps.find? (·.1 = signal)).map (·.2)

/-- The files that the system has everywhere. -/
def deviceText? (name : ByteText) : Option ByteText :=
  if name = "/dev/null".toList then some [] else none

/-- What a file holds. -/
def readFile (s : Shell) (name : ByteText) : Except FileError ByteText :=
  match deviceText? name with
  | some text => .ok text
  | none => (s.disk.readBytes (pathOf name)).map ByteText.ofBytes

/-- Words as they are split at blanks: the finished ones, and the one that is being made. -/
structure Fields where
  done : List MarkedText
  current : Option MarkedText
  deriving Inhabited

namespace Fields

def empty : Fields := ⟨[], none⟩

def add (f : Fields) (t : MarkedText) : Fields :=
  { f with current := some (f.current.getD [] ++ t) }

/-- Adds a text that stands for itself alone. -/
def addPlain (f : Fields) (t : ByteText) : Fields := f.add (t.map (·, true))

def close (f : Fields) : Fields := ⟨f.done ++ f.current.toList, none⟩

/-- Adds a text that is split at blanks. -/
def addSplit (f : Fields) (t : ByteText) : Fields :=
  t.foldl (fun f c => if c = ' ' || c = '\t' || c = '\n' then f.close else f.add [(c, false)]) f

/-- Adds texts as fields of their own. -/
def addAll (f : Fields) (ts : List ByteText) : Fields :=
  match ts with
  | [] => f
  | t :: ts => ts.foldl (fun f t => f.close.addPlain t) (f.addPlain t)

end Fields

/-- The parts of a marked text between its slashes. -/
def pathParts (t : MarkedText) : List MarkedText :=
  t.foldr (fun c parts =>
    if c.1 = '/' then [] :: parts
    else
      match parts with
      | part :: parts => (c :: part) :: parts
      | [] => [[c]]) [[]]

/-- The names in a directory, in their order, except for hidden ones unless the pattern is one. -/
def matchingNames (disk : Disk) (place : Place) (pattern : MarkedText) : List ByteText :=
  let names := disk.entries.filterMap fun (p, _) =>
    if p.dropLast = place ∧ p ≠ [] then p.getLast?.map ByteText.ofString else none
  let found := names.filter fun name =>
    (name.head? != some '.' || pattern.head?.any (·.1 = '.')) && Glob.matchesText pattern name
  found.mergeSort fun a b => !decide (b < a)

/-- The paths that exist and match the remaining parts, behind a path that leads to a place. -/
def pathsFrom (disk : Disk) : Place → ByteText → Bool → List MarkedText → List ByteText
  | place, shown, _, [] => if (disk.entry? place).isSome then [shown] else []
  | place, shown, first, part :: parts =>
    let goOn (name : ByteText) : List ByteText :=
      let shown := if first then name else shown ++ '/' :: name
      let next := match textOf name with
        | "" => if first then [] else place
        | "." => place
        | ".." => place.dropLast
        | text => place ++ [text]
      pathsFrom disk next shown false parts
    if Glob.isPattern part then (matchingNames disk place part).flatMap goOn
    else goOn (Glob.plain part)

/-- The paths that a field stands for: those that match it if it is a pattern that has any. -/
def pathsOf (disk : Disk) (t : MarkedText) : List ByteText :=
  if Glob.isPattern t then
    match pathsFrom disk disk.cwd [] true (pathParts t) with
    | [] => [Glob.plain t]
    | found => found
  else [Glob.plain t]

end Shell

end FixGrader.Host
