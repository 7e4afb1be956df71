import FixGrader.Log.Event
import FixGrader.Text.Property
/-!
# Which events are shown

A filter gives the level down to which events are shown, for all of the program or for the parts
whose names begin in some way. Of the rules that fit an event the one with the longest name counts.
-/
namespace FixGrader.Log

/-- A rule for the events whose target begins with a name; no level means that none is shown. -/
structure Rule where
  target : String
  level : Option Level
  deriving DecidableEq, Repr, Inhabited

abbrev Filter := List Rule

/-- The level of a word or of a digit, where `some none` shows nothing. -/
def levelOfWord? (word : String) : Option (Option Level) :=
  match word.toList.map Char.toLower with
  | ['o', 'f', 'f'] | ['0'] => some none
  | ['e', 'r', 'r', 'o', 'r'] | ['1'] => some (some .error)
  | ['w', 'a', 'r', 'n'] | ['2'] => some (some .warn)
  | ['i', 'n', 'f', 'o'] | ['3'] => some (some .info)
  | ['d', 'e', 'b', 'u', 'g'] | ['4'] => some (some .debug)
  | ['t', 'r', 'a', 'c', 'e'] | ['5'] => some (some .trace)
  | _ => none

namespace Filter

/-- Everything down to a level. -/
def upTo (level : Level) : Filter := [⟨"", some level⟩]

/-- Whether a character may begin the name of a target. -/
def isTargetStart (c : Char) : Bool :=
  c = '-' || c = ':' || c = '_' || Text.isAlphanumeric c

/-- A rule: a level for all of the program, the name of a target for all its events, or both. -/
def ruleOfText? (s : String) : Option Rule := do
  let cs := s.toList
  let first ← cs.head?
  guard (isTargetStart first)
  let target := String.ofList (cs.takeWhile (· != '='))
  match cs.dropWhile (· != '=') with
  | [] =>
    match levelOfWord? target with
    | some level => return ⟨"", level⟩
    | none => return ⟨target, some .trace⟩
  | [_] => return ⟨target, some .trace⟩
  | _ :: level => return ⟨target, ← levelOfWord? (String.ofList level)⟩

/-- The parts of a text between commas. -/
def splitCommas : List Char → List (List Char)
  | [] => [[]]
  | ',' :: cs => [] :: splitCommas cs
  | c :: cs =>
    match splitCommas cs with
    | part :: parts => (c :: part) :: parts
    | [] => [[c]]

/-- Reads rules with commas between them; none when one of them cannot be read. -/
def ofText? (s : String) : Option Filter :=
  ((splitCommas s.toList).filter (· != [])).mapM fun part => ruleOfText? (String.ofList part)

/-- The better one of two rules that fit: that of the longer name, the later one if they are
equally long. -/
def better (best : Option Rule) (rule : Rule) : Option Rule :=
  match best with
  | none => some rule
  | some b => if b.target.length ≤ rule.target.length then some rule else some b

/-- The rule that counts for a target. -/
def ruleFor (f : Filter) (target : String) : Option Rule :=
  (f.filter fun rule => rule.target.toList.isPrefixOf target.toList).foldl better none

def shows (f : Filter) (e : Event) : Bool :=
  match (f.ruleFor e.target).bind (·.level) with
  | some level => decide (e.level.rank ≤ level.rank)
  | none => false

end Filter

end FixGrader.Log
