import FixGrader.Disk
/-!
# External tools

A call of a program, what it gives, and why it may give nothing of use.
-/
namespace FixGrader

/-- A call of a program. -/
structure Invocation where
  program : String
  args : List String
  /-- The directory in which the program runs, if it is not the current one. -/
  cwd : Option Path
  /-- Settings of the environment that are added for the program. -/
  env : List (String × String)
  /-- How long the program may run, in milliseconds. -/
  timeout : Nat
  deriving DecidableEq, Repr, Inhabited

namespace Invocation

/-- The program and its arguments on one line. -/
def display (i : Invocation) : String := String.intercalate " " (i.program :: i.args)

/-- A call without arguments. -/
def plain (program : String) (timeout : Nat) : Invocation := ⟨program, [], none, [], timeout⟩

/-- The call that shows whether a program is there. -/
def probe (program : String) (timeout : Nat) : Invocation :=
  { plain program timeout with args := ["--version"] }

end Invocation

/-- What a program gives when it has ended. -/
structure Tool.Output where
  /-- The exit status; none if a signal ended the program. -/
  exitStatus : Option Int
  stdout : String
  stderr : String
  deriving DecidableEq, Repr, Inhabited

def Tool.Output.success (o : Output) : Bool := o.exitStatus = some 0

/-- Why a tool gives nothing of use. -/
inductive Tool.Failure where
  | unavailable (program : String)
  | spawn (program : String) (error : FileError)
  /-- The program ran longer than its time, which is given in milliseconds. -/
  | timedOut (program : String) (timeout : Nat)
  | malformed (tool message : String)
  deriving DecidableEq, Repr

def Tool.Failure.message : Tool.Failure → String
  | unavailable program => program ++ " is not installed or not on PATH"
  | spawn program error => "failed to run " ++ program ++ ": " ++ error.message
  | timedOut program timeout =>
    program ++ " did not finish within " ++ toString (timeout / 1000) ++ "s"
  | malformed tool message => tool ++ " produced unusable output: " ++ message

end FixGrader
