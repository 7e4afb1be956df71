import FixGrader.Toml.Scalar
import FixGrader.Toml.Table
import FixGrader.Text.Property
/-!
# Reading TOML

A document is a sequence of lines: comments, headers of tables, and keys with values. The result is
one document of nested objects and arrays. Keys have fewer than 80 parts, and values are nested
less than 80 deep.
-/
namespace FixGrader.Toml

open Json (Document)

/-- The number of the line in which a text stops to be TOML. -/
structure Error where
  line : Nat
  deriving DecidableEq, Repr, Inhabited

def Error.message (e : Error) : String := s!"unexpected input in line {e.line}"

/-- The parts of a key, and the levels of nesting, stay below this number. -/
def levelLimit : Nat := 80

def isKeyChar (c : Char) : Bool := Text.isAsciiWord c || c = '-'

/-- One part of a key, with the blanks around it. -/
def keyPart? (cs : List Char) : Option (String × List Char) := do
  let cs := skipBlanks cs
  let (part, rest) ←
    match cs.head? with
    | some '"' | some '\'' => lineString? cs
    | _ =>
      let name := cs.takeWhile isKeyChar
      if name.isEmpty then none else some (String.ofList name, cs.dropWhile isKeyChar)
  return (part, skipBlanks rest)

/-- The parts of a key, up to `fuel` of them. -/
def keyParts? : Nat → List Char → Option (List String × List Char)
  | 0, _ => none
  | fuel + 1, cs => do
    let (part, rest) ← keyPart? cs
    match rest with
    | '.' :: rest =>
      let (parts, rest) ← keyParts? fuel rest
      return (part :: parts, rest)
    | _ => return ([part], rest)

/-- A key: the names before the last one, and the last one. -/
def key? (cs : List Char) : Option ((List String × String) × List Char) := do
  let (parts, rest) ← keyParts? (levelLimit - 1) cs
  return ((parts.dropLast, ← parts.getLast?), rest)

/-- The end of a comment, or the text itself. -/
def skipComment : List Char → List Char
  | '#' :: rest => rest.dropWhile isPlain
  | cs => cs

/-- Skips blanks, line ends and comments between the items of an array. -/
def skipBetween : Nat → List Char → List Char
  | 0, cs => cs
  | fuel + 1, cs =>
    let after := skipComment (skipBlanks cs)
    match newline? after with
    | some rest => skipBetween fuel rest
    | none => after

/-- Skips all that may stand between the items of an array. -/
def skipGap (cs : List Char) : List Char := skipBetween (cs.length + 1) cs

mutual

/-- A value that is nested below `levels`. -/
def value? : Nat → Nat → List Char → Option (Document × List Char)
  | 0, _, _ => none
  | fuel + 1, levels, cs =>
    match cs with
    | '[' :: rest => do
      guard (0 < levels)
      let (items, rest) ← items? fuel (levels - 1) rest
      return (.array items, rest)
    | '\x7b' :: rest => do
      guard (0 < levels)
      match skipBlanks rest with
      | '\x7d' :: rest => return (.object [], rest)
      | rest =>
        let (table, rest) ← entries? fuel (levels - 1) Table.empty rest
        return (table.document, rest)
    | cs => scalar? cs

/-- The items of an array and its closing bracket; a comma may stand behind the last item. -/
def items? : Nat → Nat → List Char → Option (List Document × List Char)
  | 0, _, _ => none
  | fuel + 1, levels, cs =>
    match skipGap cs with
    | ']' :: rest => some ([], rest)
    | cs => do
      let (item, rest) ← value? fuel levels cs
      match skipGap rest with
      | ']' :: rest => return ([item], rest)
      | ',' :: rest =>
        let (items, rest) ← items? fuel levels rest
        return (item :: items, rest)
      | _ => none

/-- The entries of a table within a line and its closing brace. -/
def entries? : Nat → Nat → Table → List Char → Option (Table × List Char)
  | 0, _, _, _ => none
  | fuel + 1, levels, t, cs => do
    let ((path, key), rest) ← key? cs
    let rest ← mark? '=' rest
    let (value, rest) ← value? fuel levels (skipBlanks rest)
    let t ← t.addValue path key value
    match skipBlanks rest with
    | '\x7d' :: rest => return (t, rest)
    | ',' :: rest => entries? fuel levels t rest
    | _ => none

end

/-- Where a table goes when it is finished. -/
inductive Target where
  | root
  | table (path : List String) (key : String)
  /-- One of the tables that share a name. -/
  | shared (path : List String) (key : String)
  deriving Repr, Inhabited

/-- What the lines so far amount to: the finished tables, and the one that is being filled. -/
structure State where
  root : Table
  current : Table
  target : Target
  deriving Repr, Inhabited

namespace State

def initial : State := ⟨.empty, .empty, .root⟩

/-- All tables, with the current one in its place. -/
def finish? (s : State) : Option Table :=
  match s.target with
  | .root => some s.current
  | .table path key => s.root.close? path key s.current
  | .shared path key => s.root.append? path key s.current

/-- Goes on to the table of a header. -/
def open? (s : State) (path : List String) (key : String) : Option State := do
  let (root, current) ← (← s.finish?).open? path key
  return ⟨root, current, .table path key⟩

/-- Goes on to one more table of a shared name. -/
def share? (s : State) (path : List String) (key : String) : Option State := do
  let root ← (← s.finish?).share? path key
  return ⟨root, .empty, .shared path key⟩

/-- Adds an entry to the current table. -/
def add? (s : State) (path : List String) (key : String) (value : Document) : Option State := do
  return { s with current := ← s.current.addValue path key value }

end State

/-- What stands on a line before blanks and a comment, and the rest of the text. -/
def statement? (s : State) : List Char → Option (State × List Char)
  | [] => some (s, [])
  | '#' :: rest => some (s, '#' :: rest)
  | '\n' :: rest => some (s, '\n' :: rest)
  | '\r' :: rest => some (s, '\r' :: rest)
  | '[' :: '[' :: rest => do
    let ((path, key), rest) ← key? rest
    let rest ← mark? ']' rest
    let rest ← mark? ']' rest
    return (← s.share? path key, rest)
  | '[' :: rest => do
    let ((path, key), rest) ← key? rest
    let rest ← mark? ']' rest
    return (← s.open? path key, rest)
  | cs => do
    let ((path, key), rest) ← key? cs
    let rest ← mark? '=' rest
    let rest := skipBlanks rest
    let (value, rest) ← value? (2 * rest.length + 2) (levelLimit - 1) rest
    return (← s.add? path key value, rest)

/-- Reads line after line; an error is the text from the line on that is not understood. -/
def lines : Nat → State → List Char → Except (List Char) State
  | 0, _, cs => .error cs
  | fuel + 1, s, cs =>
    match statement? s (skipBlanks cs) with
    | none => .error cs
    | some (s, rest) =>
      let rest := skipComment (skipBlanks rest)
      match newline? rest with
      | some rest => lines fuel s rest
      | none => if rest.isEmpty then .ok s else .error cs

/-- A byte order mark at the beginning does not count. -/
def dropMark : List Char → List Char
  | '\uFEFF' :: rest => rest
  | cs => cs

/-- Reads a text as one object. -/
def ofText (text : String) : Except Error Document :=
  let cs := dropMark text.toList
  let errorAt (rest : List Char) : Error :=
    ⟨(cs.take (cs.length - rest.length)).count '\n' + 1⟩
  match lines (cs.length + 1) .initial cs with
  | .error rest => .error (errorAt rest)
  | .ok s =>
    match s.finish? with
    | some root => .ok root.document
    | none => .error (errorAt [])

end FixGrader.Toml
