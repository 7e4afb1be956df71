import FixGrader.Number.Shortest
import FixGrader.Text.Quoted
import FixGrader.Timestamp
/-!
# Log events

What is noted while a solution is checked: a level, the part of the program that notes it, a
message and fields. An event is written on one line.
-/
namespace FixGrader.Log

inductive Level where
  | error
  | warn
  | info
  | debug
  | trace
  deriving DecidableEq, Repr, Inhabited

namespace Level

def text : Level → String
  | error => "ERROR"
  | warn => "WARN"
  | info => "INFO"
  | debug => "DEBUG"
  | trace => "TRACE"

/-- How far down the list a level is: an event is shown where its level is not further down than
the one that is asked for. -/
def rank : Level → Nat
  | error => 1
  | warn => 2
  | info => 3
  | debug => 4
  | trace => 5

end Level

/-- The value of a field: shown as it is, or between quotes. -/
inductive Value where
  | shown (text : String)
  | quoted (text : String)
  deriving DecidableEq, Repr, Inhabited

namespace Value

def text : Value → String
  | shown s => s
  | quoted s => Text.quoted s

def ofNat (n : Nat) : Value := .shown (toString n)

def ofDouble (d : Double) : Value := .shown d.text

def ofBool (b : Bool) : Value := .shown (if b then "true" else "false")

end Value

structure Event where
  level : Level
  /-- The part of the program that the event comes from. -/
  target : String
  message : String
  fields : List (String × Value)
  deriving DecidableEq, Repr, Inhabited

namespace Event

/-- Puts blanks in front of a text up to a width. -/
def padLeft (width : Nat) (s : String) : String :=
  String.ofList (List.replicate (width - s.length) ' ') ++ s

/-- The line of an event, without its time. -/
def body (e : Event) : String :=
  padLeft 5 e.level.text ++ " " ++ e.target ++ ": " ++ e.message ++
    String.join (e.fields.map fun (name, value) => " " ++ name ++ "=" ++ value.text)

/-- The line of an event that was noted at a time. -/
def line (now : Timestamp) (e : Event) : String := now.microText ++ " " ++ e.body ++ "\n"

end Event

namespace Target

def pattern : String := "vulnfix::analysis::pattern"

def lint : String := "vulnfix::analysis::static_analysis"

def audit : String := "vulnfix::analysis::dependency_audit"

def tools : String := "vulnfix::tools"

def validation : String := "vulnfix::validator"

def submission : String := "vulnfix::challenge"

def session : String := "vulnfix::challenge::session"

end Target

end FixGrader.Log
