import FixGrader.Regex.CharSet
/-!
# Patterns

The shape of a pattern once all its flags are applied. Groups leave no trace: only whole matches
are of interest.
-/
namespace FixGrader.Regex

/-- A condition on a position between two characters. Conditions on words come in two kinds:
words of any script, or of ASCII alone. -/
inductive Assertion where
  | textStart
  | textEnd
  | lineStart
  | lineEnd
  /-- A line starts after any of the line breaks CR, LF and CR LF. -/
  | anyLineStart
  | anyLineEnd
  | wordEdge (ascii : Bool)
  | notWordEdge (ascii : Bool)
  | wordStart (ascii : Bool)
  | wordEnd (ascii : Bool)
  /-- No word character comes before. -/
  | wordStartHalf (ascii : Bool)
  /-- No word character comes after. -/
  | wordEndHalf (ascii : Bool)
  deriving DecidableEq, Repr, Inhabited

namespace Assertion

/-- Whether the condition holds between the characters `before` and `after`, where there are any. -/
def holds (a : Assertion) (before after : Option Char) : Bool :=
  let isWord (ascii : Bool) (c : Option Char) : Bool :=
    c.any (if ascii then Text.isAsciiWord else Text.isWord)
  match a with
  | textStart => before.isNone
  | textEnd => after.isNone
  | lineStart => before.isNone || before == some '\n'
  | lineEnd => after.isNone || after == some '\n'
  | anyLineStart =>
    before.isNone || before == some '\n' || (before == some '\r' && after != some '\n')
  | anyLineEnd =>
    after.isNone || after == some '\r' || (after == some '\n' && before != some '\r')
  | wordEdge ascii => isWord ascii before != isWord ascii after
  | notWordEdge ascii => isWord ascii before == isWord ascii after
  | wordStart ascii => !isWord ascii before && isWord ascii after
  | wordEnd ascii => isWord ascii before && !isWord ascii after
  | wordStartHalf ascii => !isWord ascii before
  | wordEndHalf ascii => !isWord ascii after

end Assertion

inductive Node where
  | empty
  | char (set : CharSet)
  | assert (condition : Assertion)
  | seq (first second : Node)
  /-- One of two patterns, the first one preferred. -/
  | alt (first second : Node)
  /-- At least `min` and, with a bound, at most `max` times; as often as possible if `greedy`, else
  as rarely as possible. -/
  | loop (body : Node) (min : Nat) (max : Option Nat) (greedy : Bool)
  deriving DecidableEq, Repr, Inhabited

namespace Node

/-- Whether every match takes at least one character. -/
def takesInput : Node → Bool
  | empty => false
  | char _ => true
  | assert _ => false
  | seq a b => a.takesInput || b.takesInput
  | alt a b => a.takesInput && b.takesInput
  | .loop body min _ _ => 0 < min && body.takesInput

/-- Whether no match takes any character. -/
def takesNothing : Node → Bool
  | empty => true
  | char _ => false
  | assert _ => true
  | seq a b => a.takesNothing && b.takesNothing
  | alt a b => a.takesNothing && b.takesNothing
  | .loop body _ max _ => max == some 0 || body.takesNothing

/-- A repetition. What takes no character is not repeated more than once. -/
def repeated (body : Node) (min : Nat) (max : Option Nat) (greedy : Bool) : Node :=
  let (min, max) :=
    if body.takesNothing then (Nat.min min 1, some ((max.map (Nat.min 1)).getD 1)) else (min, max)
  if max = some 0 then empty
  else if min = 1 ∧ max = some 1 then body
  else .loop body min max greedy

/-- How many bytes the automaton of a pattern takes, about: 32 for a state, and 40 for one that two
others may follow. A body is written out once for each round, with a choice in front of the rounds
that may be left out. Not counted are the two states of a group, and what the characters of a set
share, so that patterns near the bound may be judged otherwise than by the automaton itself. -/
def size : Node → Nat
  | empty => 32
  | char set => set.size
  | assert _ => 32
  | seq a b => a.size + b.size
  | alt a b => a.size + b.size + 40
  | .loop body min max _ =>
    match max with
    | none => Nat.max min 1 * body.size + 40
    | some m => m * body.size + (if m = min then 0 else (m - min) * 40 + 32)

def ofList : List Node → Node
  | [] => empty
  | [n] => n
  | n :: ns => seq n (ofList ns)

def oneOf : List Node → Node
  | [] => empty
  | [n] => n
  | n :: ns => alt n (oneOf ns)

end Node

end FixGrader.Regex
