import FixGrader.Regex.Node
/-!
# Compiled patterns

A pattern as numbered instructions that say what to do at a position of the text and where to go
on. Where there is a choice, the preferred alternative comes first.
-/
namespace FixGrader.Regex

inductive Instruction where
  /-- Takes one character of the set. -/
  | char (set : CharSet) (next : Nat)
  | assert (condition : Assertion) (next : Nat)
  | split (first second : Nat)
  | accept
  deriving Repr, Inhabited

/-- Instructions, and the one that a match begins with. -/
structure Program where
  code : Array Instruction
  start : Nat
  deriving Repr, Inhabited

namespace Program

abbrev Code := Array Instruction

/-- Adds an instruction at the end and gives its number. -/
def emit (i : Instruction) (code : Code) : Nat × Code := (code.size, code.push i)

/-- A choice between going on with `inside` or leaving to `outside`. -/
def choice (greedy : Bool) (inside outside : Nat) : Instruction :=
  if greedy then .split inside outside else .split outside inside

/-- Puts `count` copies in front of what starts at `next`. -/
def copies (one : Nat → Code → Nat × Code) : Nat → Nat → Code → Nat × Code
  | 0, next, code => (next, code)
  | count + 1, next, code =>
    let (next, code) := copies one count next code
    one next code

/-- Puts up to `count` copies in front of what starts at `next`. -/
def optionalCopies (greedy : Bool) (one : Nat → Code → Nat × Code) (next : Nat) :
    Nat → Code → Nat × Code
  | 0, code => (next, code)
  | count + 1, code =>
    let (rest, code) := optionalCopies greedy one next count code
    let (inside, code) := one rest code
    emit (choice greedy inside next) code

/-- One copy or more in front of what starts at `next`: after each copy comes the choice whether to
go round again. Gives the start of the copy and the number of the choice. -/
def repeated (greedy : Bool) (one : Nat → Code → Nat × Code) (next : Nat) (code : Code) :
    Nat × Nat × Code :=
  let (again, code) := emit .accept code
  let (inside, code) := one again code
  (inside, again, code.setIfInBounds again (choice greedy inside next))

/-- Any number of copies. A body that always takes input needs one choice alone; one that may take
nothing is entered through a choice of its own, so that going round without progress ends. -/
def anyNumber (greedy takesInput : Bool) (one : Nat → Code → Nat × Code) (next : Nat)
    (code : Code) : Nat × Code :=
  let (inside, again, code) := repeated greedy one next code
  if takesInput then (again, code) else emit (choice greedy inside next) code

/-- Puts a pattern in front of what starts at `next`, and gives the number that it starts at. -/
def place : Node → Nat → Code → Nat × Code
  | .empty, next, code => (next, code)
  | .char set, next, code => emit (.char set next) code
  | .assert condition, next, code => emit (.assert condition next) code
  | .seq a b, next, code =>
    let (next, code) := place b next code
    place a next code
  | .alt a b, next, code =>
    let (second, code) := place b next code
    let (first, code) := place a next code
    emit (.split first second) code
  | .loop body min max greedy, next, code =>
    let one := place body
    match max with
    | some max =>
      let (next, code) := optionalCopies greedy one next (max - min) code
      copies one min next code
    | none =>
      match min with
      | 0 => anyNumber greedy body.takesInput one next code
      | min + 1 =>
        let (inside, _, code) := repeated greedy one next code
        copies one min inside code

def ofNode (n : Node) : Program :=
  let (start, code) := place n 0 #[.accept]
  ⟨code, start⟩

end Program

end FixGrader.Regex
