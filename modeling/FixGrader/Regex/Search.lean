import FixGrader.Regex.Program
import FixGrader.Regex.Reader
/-!
# Searching a text

The matches of a pattern in a text, from left to right and without overlaps. Of the matches that
start at the same place the preferred one is taken. A search visits each pair of an instruction and
a position at most once, so its cost is bounded by the product of their numbers.
-/
namespace FixGrader.Regex

/-- A match, as the numbers of the characters before its start and before its end. -/
structure Span where
  start : Nat
  stop : Nat
  deriving DecidableEq, Repr, Inhabited

namespace Program

/-- An instruction to carry out at a position. -/
abbrev Task := Nat × Nat

/-- The tasks that follow from a task, the preferred one first. -/
def successors (p : Program) (text : Array Char) (task : Task) : List Task :=
  let (pc, pos) := task
  match p.code[pc]? with
  | some (.char set next) =>
    match text[pos]? with
    | some c => if set.contains c then [(next, pos + 1)] else []
    | none => []
  | some (.assert condition next) =>
    let before := if pos = 0 then none else text[pos - 1]?
    if condition.holds before text[pos]? then [(next, pos)] else []
  | some (.split first second) => [(first, pos), (second, pos)]
  | some .accept | none => []

def accepts (p : Program) (task : Task) : Bool :=
  match p.code[task.1]? with
  | some .accept => true
  | _ => false

/-- The place of a task among all tasks of a search. -/
def taskIndex (text : Array Char) (task : Task) : Nat := task.1 * (text.size + 1) + task.2

/-- Carries out the tasks of a stack, leaving out those that have been done before, until one
accepts. Gives the tasks done so far and the position of acceptance. -/
def explore (p : Program) (text : Array Char) :
    Nat → List Task → Array Bool → Array Bool × Option Nat
  | 0, _, done => (done, none)
  | _ + 1, [], done => (done, none)
  | fuel + 1, task :: stack, done =>
    if done[taskIndex text task]? = some false then
      let done := done.setIfInBounds (taskIndex text task) true
      if p.accepts task then (done, some task.2)
      else explore p text fuel (p.successors text task ++ stack) done
    else explore p text fuel stack done

/-- How many tasks a search has. -/
def taskCount (p : Program) (text : Array Char) : Nat := p.code.size * (text.size + 1)

/-- The end of the preferred match that starts at one of the positions from `start` on, of which
`left` are left to try, with its start. -/
def firstFrom (p : Program) (text : Array Char) : Nat → Nat → Array Bool → Option Span
  | 0, _, _ => none
  | left + 1, start, done =>
    match explore p text (3 * p.taskCount text + 2) [(p.start, start)] done with
    | (_, some stop) => some ⟨start, stop⟩
    | (done, none) => firstFrom p text left (start + 1) done

/-- The leftmost match at or after a position. -/
def first? (p : Program) (text : Array Char) (start : Nat) : Option Span :=
  firstFrom p text (text.size + 1 - start) start (Array.replicate (p.taskCount text) false)

/-- The matches from `start` on, where `last` is the end of the match before. An empty match right
after another match does not count; the search then goes on one character later. -/
def matchesFrom (p : Program) (text : Array Char) : Nat → Nat → Option Nat → List Span
  | 0, _, _ => []
  | fuel + 1, start, last =>
    if text.size < start then []
    else
      match p.first? text start with
      | none => []
      | some span =>
        if span.start = span.stop ∧ last = some span.stop then
          match p.first? text (start + 1) with
          | none => []
          | some span => span :: matchesFrom p text fuel span.stop (some span.stop)
        else span :: matchesFrom p text fuel span.stop (some span.stop)

/-- All matches in a text. -/
def spans (p : Program) (text : Array Char) : List Span :=
  matchesFrom p text (2 * text.size + 2) 0 none

end Program

end FixGrader.Regex

namespace FixGrader

/-- A pattern: its text, and what it compiles to. -/
structure Regex where
  source : String
  program : Regex.Program
  deriving Repr, Inhabited

namespace Regex

/-- Compiles the text of a pattern. -/
def compile (source : String) : Except PatternError Regex := do
  return ⟨source, Program.ofNode (← Node.ofText source)⟩

/-- The matches of a pattern in a text, in order of their positions. -/
def findAll (r : Regex) (text : Array Char) : List Span := r.program.spans text

/-- The characters of a match. -/
def Span.text (s : Span) (text : Array Char) : String :=
  String.ofList ((text.toList.drop s.start).take (s.stop - s.start))

/-- The number of the line that a match starts in, counted from one. -/
def Span.line (s : Span) (text : Array Char) : Nat :=
  ((text.toList.take s.start).count '\n') + 1

end Regex

end FixGrader
