import FixGrader.Regex.Node
import FixGrader.Regex.PropertyName
import FixGrader.Number.Power
/-!
# Reading patterns

The text of a pattern is read from left to right, with the flags that are in force at each place.
Every violation of the grammar has its own cause; a pattern that could match part of a character,
or whose compiled form would be too large, is refused as well.
-/
namespace FixGrader.Regex

/-- Why a text is no pattern. -/
inductive PatternError where
  | groupNotClosed
  | groupNotOpened
  | groupName
  | groupNameRepeated
  | lookAround
  | backreference
  | flags
  | nothingToRepeat
  | repetitionBounds
  | escape
  | hexadecimal
  | wordBoundary
  | classNotClosed
  | classRange
  | classEscape
  | unknownProperty
  | unicodeOff
  | partOfCharacter
  | nestedTooDeep
  | tooLarge
  deriving DecidableEq, Repr, Inhabited

def PatternError.message : PatternError → String
  | groupNotClosed => "a group is not closed"
  | groupNotOpened => "a group is closed that was not opened"
  | groupName => "a group name is empty or not valid"
  | groupNameRepeated => "a group name is used twice"
  | lookAround => "look-around is not supported"
  | backreference => "backreferences are not supported"
  | flags => "the flags are not valid"
  | nothingToRepeat => "there is nothing to repeat"
  | repetitionBounds => "the bounds of a repetition are not valid"
  | escape => "an escape is not known"
  | hexadecimal => "a hexadecimal escape names no character"
  | wordBoundary => "a word boundary is not known"
  | classNotClosed => "a character class is not closed"
  | classRange => "a range in a character class is not valid"
  | classEscape => "an escape has no meaning in a character class"
  | unknownProperty => "a character property is not known"
  | unicodeOff => "a character outside of ASCII needs the Unicode flag"
  | partOfCharacter => "the pattern can match a part of a character"
  | nestedTooDeep => "the pattern is nested too deeply"
  | tooLarge => "the compiled pattern is too large"

/-- What the flags `i`, `m`, `s`, `U`, `u`, `R` and `x` say at some place of a pattern. -/
structure Flags where
  anyCase : Bool := false
  multiLine : Bool := false
  dotAll : Bool := false
  swapGreed : Bool := false
  unicode : Bool := true
  anyLineBreak : Bool := false
  verbose : Bool := false
  deriving DecidableEq, Repr, Inhabited

/-- Sets one flag. -/
def Flags.set (f : Flags) (flag : Char) (value : Bool) : Option Flags :=
  match flag with
  | 'i' => some { f with anyCase := value }
  | 'm' => some { f with multiLine := value }
  | 's' => some { f with dotAll := value }
  | 'U' => some { f with swapGreed := value }
  | 'u' => some { f with unicode := value }
  | 'R' => some { f with anyLineBreak := value }
  | 'x' => some { f with verbose := value }
  | _ => none

namespace Reader

/-- What is left of the text of a pattern, and the group names seen so far. -/
structure State where
  rest : List Char
  names : List (List Char) := []

abbrev Read := StateT State (Except PatternError)

def peek : Read (Option Char) := do return (← get).rest.head?

def remaining : Read (List Char) := do return (← get).rest

def setRemaining (cs : List Char) : Read Unit := modify fun s => { s with rest := cs }

def advance : Read Unit := modify fun s => { s with rest := s.rest.tail }

def fail {α : Type} (e : PatternError) : Read α := throw e

/-- Skips a comment, up to and with the end of its line. -/
def afterComment : List Char → List Char
  | [] => []
  | c :: cs => if c = '\n' then cs else afterComment cs

/-- Skips blanks and comments, which count for nothing in a verbose pattern. -/
def skipVerbose : Nat → List Char → List Char
  | 0, cs => cs
  | fuel + 1, cs =>
    match cs with
    | [] => []
    | c :: rest =>
      if Text.isBlank c then skipVerbose fuel rest
      else if c = '#' then skipVerbose fuel (afterComment rest)
      else c :: rest

def skipped (verbose : Bool) (cs : List Char) : List Char :=
  if verbose then skipVerbose cs.length cs else cs

def skip (verbose : Bool) : Read Unit := do setRemaining (skipped verbose (← remaining))

def advanceAndSkip (verbose : Bool) : Read Unit := do
  advance
  skip verbose

/-- The next character, which must exist. -/
def expectMore (e : PatternError) : Read Char := do
  match ← peek with
  | some c => return c
  | none => fail e

/-- What the `i` flag makes of a set. -/
def withCase (f : Flags) (s : CharSet) : CharSet :=
  if f.anyCase then (if f.unicode then .anyCase s else .anyAsciiCase s) else s

/-- A set that is perhaps negated, after the `i` flag. Without the `u` flag a negated set has parts
of characters in it. -/
def finishSet (f : Flags) (negated : Bool) (s : CharSet) : Read CharSet :=
  if negated && !f.unicode then fail .partOfCharacter
  else return CharSet.negateIf negated (withCase f s)

/-- The set of a letter after a backslash: decimal digits, blanks or word characters. -/
def perlSet (f : Flags) (letter : Char) : Read CharSet := do
  let negated := letter = 'D' ∨ letter = 'S' ∨ letter = 'W'
  if negated && !f.unicode then fail .partOfCharacter
  let positive : CharSet :=
    if letter = 'd' ∨ letter = 'D' then
      if f.unicode then .decimal else .range '0' '9'
    else if letter = 's' ∨ letter = 'S' then
      if f.unicode then .blank else .ofChars [' ', '\t', '\n', '\x0b', '\x0c', '\r']
    else
      if f.unicode then .word else .ofRanges [('0', '9'), ('A', 'Z'), ('a', 'z'), ('_', '_')]
  return CharSet.negateIf negated positive

/-- The classes that are written `[:name:]`. -/
def asciiClass? (name : String) : Option CharSet :=
  match name with
  | "alnum" => some (.ofRanges [('0', '9'), ('A', 'Z'), ('a', 'z')])
  | "alpha" => some (.ofRanges [('A', 'Z'), ('a', 'z')])
  | "ascii" => some (.range '\x00' '\x7f')
  | "blank" => some (.ofChars ['\t', ' '])
  | "cntrl" => some (.ofRanges [('\x00', '\x1f'), ('\x7f', '\x7f')])
  | "digit" => some (.range '0' '9')
  | "graph" => some (.range '!' '~')
  | "lower" => some (.range 'a' 'z')
  | "print" => some (.range ' ' '~')
  | "punct" => some (.ofRanges [('!', '/'), (':', '@'), ('[', '\x60'), ('\x7b', '~')])
  | "space" => some (.ofChars ['\t', '\n', '\x0b', '\x0c', '\r', ' '])
  | "upper" => some (.range 'A' 'Z')
  | "word" => some (.ofRanges [('0', '9'), ('A', 'Z'), ('_', '_'), ('a', 'z')])
  | "xdigit" => some (.ofRanges [('0', '9'), ('A', 'F'), ('a', 'f')])
  | _ => none

/-- What one character or escape stands for. A literal remembers whether it was written with two
hexadecimal digits: such a one names a byte. -/
inductive Primitive where
  | literal (c : Char) (byte : Bool)
  | set (s : CharSet)
  | condition (letter : Char)
  | word (a : Bool → Assertion)
  | dot
  | lineStart
  | lineEnd

def isMeta (c : Char) : Bool := "\\.+*?()|[]\x7b\x7d^$#&-~".toList.contains c

/-- Whether a backslash before `c` just gives `c`. -/
def isEscapable (c : Char) : Bool :=
  isMeta c ||
    (Text.isAscii c && !Text.isAsciiLetter c && !Text.isAsciiDigit c && c != '<' && c != '>')

def hexNumber (cs : List Char) : Nat :=
  cs.foldl (fun n c => n * 16 +
    (if Text.isAsciiDigit c then c.toNat - 48
      else if 'a' ≤ c then c.toNat - 87 else c.toNat - 55)) 0

/-- The character of a code point in hexadecimal. -/
def hexChar (digits : List Char) : Read Char := do
  let n := hexNumber digits
  if h : n.isValidChar then return Char.ofNatAux n h else fail .hexadecimal

/-- Reads exactly `n` hexadecimal digits. -/
def hexDigits (verbose : Bool) : Nat → Read (List Char)
  | 0 => return []
  | n + 1 => do
    let c ← expectMore .escape
    unless Text.isHexDigit c do fail .hexadecimal
    if n = 0 then advance else advanceAndSkip verbose
    return c :: (← hexDigits verbose n)

/-- Reads hexadecimal digits up to and with the closing brace. -/
def hexBraced (verbose : Bool) : Nat → Read (List Char)
  | 0 => fail .escape
  | fuel + 1 => do
    let c ← expectMore .escape
    if c = '\x7d' then
      advance
      return []
    unless Text.isHexDigit c do fail .hexadecimal
    advanceAndSkip verbose
    return c :: (← hexBraced verbose fuel)

/-- Reads a hexadecimal escape; its letter is next. -/
def hexEscape (f : Flags) (letter : Char) : Read Primitive := do
  advanceAndSkip f.verbose
  let c ← expectMore .escape
  if c = '\x7b' then
    advanceAndSkip f.verbose
    let digits ← hexBraced f.verbose ((← remaining).length + 1)
    if digits.isEmpty then fail .hexadecimal
    let c ← hexChar digits
    skip f.verbose
    return .literal c false
  else
    let count := if letter = 'x' then 2 else if letter = 'u' then 4 else 8
    let c ← hexChar (← hexDigits f.verbose count)
    skip f.verbose
    return .literal c (letter = 'x')

/-- Splits at the first place where `mark` occurs. -/
def splitAt? (mark : List Char) : List Char → Option (List Char × List Char)
  | [] => none
  | c :: cs =>
    if mark.isPrefixOf (c :: cs) then some ([], (c :: cs).drop mark.length)
    else (splitAt? mark cs).map fun (a, b) => (c :: a, b)

/-- The set of a property as it stands between braces, and whether it is negated. -/
def propertyNamed (name : List Char) : Option (CharSet × Bool) :=
  let ofParts (negated : Bool) (parts : List Char × List Char) : Option (CharSet × Bool) :=
    (valueSet? (String.ofList parts.1) (String.ofList parts.2)).map (·, negated)
  match splitAt? ['!', '='] name, splitAt? [':'] name, splitAt? ['='] name with
  | some parts, _, _ => ofParts true parts
  | none, some parts, _ => ofParts false parts
  | none, none, some parts => ofParts false parts
  | none, none, none => (namedSet? (String.ofList name)).map (·, false)

/-- Reads the characters up to and with the closing brace. -/
def braced (verbose : Bool) : Nat → Read (List Char)
  | 0 => fail .escape
  | fuel + 1 => do
    let c ← expectMore .escape
    if c = '\x7d' then
      advance
      return []
    advanceAndSkip verbose
    return c :: (← braced verbose fuel)

/-- Reads a property escape; its letter is next. -/
def propertyEscape (f : Flags) (letter : Char) : Read Primitive := do
  advanceAndSkip f.verbose
  let c ← expectMore .escape
  let name ← (do
    if c = '\x7b' then
      advanceAndSkip f.verbose
      braced f.verbose ((← remaining).length + 1)
    else if c = '\\' then fail .unknownProperty
    else
      advanceAndSkip f.verbose
      return [c] : Read (List Char))
  unless f.unicode do fail .unicodeOff
  let found := if c = '\x7b' then propertyNamed name
    else (namedSet? (String.ofList name)).map (·, false)
  match found with
  | none => fail .unknownProperty
  | some (s, negated) => return .set (← finishSet f (negated != (letter = 'P')) s)

def isBoundaryChar (c : Char) : Bool := Text.isAsciiLetter c || c = '-'

/-- Reads the name of a word boundary up to its closing brace. -/
def boundaryName (verbose : Bool) : Nat → Read (List Char)
  | 0 => fail .wordBoundary
  | fuel + 1 => do
    let c ← expectMore .wordBoundary
    if c = '\x7d' then
      advance
      return []
    unless isBoundaryChar c do fail .wordBoundary
    advanceAndSkip verbose
    return c :: (← boundaryName verbose fuel)

/-- After `\b`: reads a boundary name in braces, if the braces hold no repetition instead. -/
def boundary (f : Flags) : Read Primitive := do
  let before ← remaining
  match before with
  | '\x7b' :: _ =>
    advanceAndSkip f.verbose
    let c ← expectMore .wordBoundary
    if isBoundaryChar c then
      let name ← boundaryName f.verbose ((← remaining).length + 1)
      match String.ofList name with
      | "start" => return .word .wordStart
      | "end" => return .word .wordEnd
      | "start-half" => return .word .wordStartHalf
      | "end-half" => return .word .wordEndHalf
      | _ => fail .wordBoundary
    else
      setRemaining before
      return .word .wordEdge
  | _ => return .word .wordEdge

/-- Reads an escape; its backslash is next. -/
def escape (f : Flags) : Read Primitive := do
  advance
  let c ← expectMore .escape
  if Text.isAsciiDigit c then fail .backreference
  else if c = 'x' ∨ c = 'u' ∨ c = 'U' then hexEscape f c
  else if c = 'p' ∨ c = 'P' then propertyEscape f c
  else
    advance
    if "dDsSwW".toList.contains c then return .set (← perlSet f c)
    else if isEscapable c then return .literal c false
    else match c with
      | 'a' => return .literal '\x07' false
      | 'f' => return .literal '\x0c' false
      | 't' => return .literal '\t' false
      | 'n' => return .literal '\n' false
      | 'r' => return .literal '\r' false
      | 'v' => return .literal '\x0b' false
      | 'A' | 'z' => return .condition c
      | 'B' => return .word .notWordEdge
      | '<' => return .word .wordStart
      | '>' => return .word .wordEnd
      | 'b' => boundary f
      | _ => fail .escape

/-- A literal as an item of a class. -/
def classLiteral (f : Flags) : Primitive → Read Char
  | .literal c byte => do
    unless f.unicode || Text.isAscii c do
      if byte && c.toNat ≤ 0xff then fail .partOfCharacter else fail .unicodeOff
    return c
  | _ => fail .classRange

def classItem (f : Flags) : Read Primitive := do
  match ← peek with
  | none => fail .classNotClosed
  | some '\\' => escape f
  | some c =>
    advance
    return .literal c false

/-- Reads a class of the form `[:name:]`, if there is one; its bracket is next. -/
def namedClass? (cs : List Char) : Option (Bool × CharSet × List Char) :=
  match cs with
  | '[' :: ':' :: rest =>
    let (negated, rest) := match rest with
      | '^' :: r => (true, r)
      | r => (false, r)
    let name := rest.takeWhile (· != ':')
    match rest.dropWhile (· != ':') with
    | ':' :: ']' :: after => (asciiClass? (String.ofList name)).map (negated, ·, after)
    | _ => none
  | _ => none

/-- What has been read of a class: the union of the items so far, their number, the depth of the
deepest, and the operation that waits for its right-hand side. -/
structure ClassState where
  items : CharSet := .none
  count : Nat := 0
  depth : Nat := 0
  waiting : Option ((CharSet → CharSet → CharSet) × CharSet × Nat) := none

namespace ClassState

def add (c : ClassState) (s : CharSet) (depth : Nat) : ClassState :=
  { c with items := .union c.items s, count := c.count + 1, depth := max c.depth depth }

/-- The set of the items, and its depth as one operand. -/
def operand (c : ClassState) : CharSet × Nat :=
  (c.items, if c.count < 2 then c.depth else c.depth + 1)

/-- The set of all that has been read. Operations associate to the left, and the `i` flag applies
to both sides of each. -/
def value (f : Flags) (c : ClassState) : CharSet × Nat :=
  let (right, depth) := c.operand
  match c.waiting with
  | none => (right, depth)
  | some (op, left, leftDepth) => (op (withCase f left) (withCase f right), max leftDepth depth + 1)

/-- Goes on to the right-hand side of an operation. -/
def operate (f : Flags) (c : ClassState) (op : CharSet → CharSet → CharSet) : ClassState :=
  let (left, depth) := c.value f
  { waiting := some (op, left, depth) }

end ClassState

/-- Reads the start of a class: the bracket, a negation, and the hyphens and the closing bracket
that stand for themselves there. -/
def classOpening (f : Flags) : Read (Bool × ClassState) := do
  advanceAndSkip f.verbose
  let c ← expectMore .classNotClosed
  let negated := c = '^'
  if negated then advanceAndSkip f.verbose
  let rec hyphens (fuel : Nat) (state : ClassState) : Read ClassState := do
    match fuel with
    | 0 => return state
    | fuel + 1 =>
      if (← expectMore .classNotClosed) = '-' then
        advanceAndSkip f.verbose
        hyphens fuel (state.add (.single '-') 0)
      else return state
  let state ← hyphens ((← remaining).length + 1) {}
  if state.count = 0 && (← expectMore .classNotClosed) = ']' then
    advanceAndSkip f.verbose
    discard (expectMore .classNotClosed)
    return (negated, state.add (.single ']') 0)
  return (negated, state)

/-- The character after the next one, blanks of a verbose pattern aside. -/
def second? (verbose : Bool) (cs : List Char) : Option Char := (skipped verbose cs.tail).head?

/-- Reads one item or range of a class. -/
def classRange (f : Flags) : Read CharSet := do
  let first ← classItem f
  skip f.verbose
  let c ← expectMore .classNotClosed
  let next := second? f.verbose (← remaining)
  if c != '-' || next = some ']' || next = some '-' then
    match first with
    | .set s => return s
    | .literal .. => return .single (← classLiteral f first)
    | _ => fail .classEscape
  else
    advanceAndSkip f.verbose
    discard (expectMore .classNotClosed)
    let last ← classItem f
    let first ← classLiteral f first
    let last ← classLiteral f last
    if last < first then fail .classRange
    return .range first last

/-- Reads the items of a class up to and with its closing bracket. -/
def classBody (f : Flags) : Nat → ClassState → Read (CharSet × Nat)
  | 0, _ => fail .classNotClosed
  | fuel + 1, state => do
    skip f.verbose
    let cs ← remaining
    match cs with
    | [] => fail .classNotClosed
    | '[' :: _ =>
      match namedClass? cs with
      | some (negated, s, rest) =>
        setRemaining rest
        let s ← finishSet f negated s
        classBody f fuel (state.add s 0)
      | none =>
        let (negated, inner) ← classOpening f
        let (s, depth) ← classBody f fuel inner
        let s ← finishSet f negated s
        classBody f fuel (state.add s (depth + 1))
    | ']' :: _ =>
      advance
      return state.value f
    | '&' :: '&' :: rest =>
      setRemaining rest
      classBody f fuel (state.operate f .inter)
    | '-' :: '-' :: rest =>
      setRemaining rest
      classBody f fuel (state.operate f .diff)
    | '~' :: '~' :: rest =>
      setRemaining rest
      classBody f fuel (state.operate f .symmDiff)
    | _ =>
      let s ← classRange f
      classBody f fuel (state.add s 0)

/-- Reads a class; its opening bracket is next. -/
def bracketClass (f : Flags) : Read (CharSet × Nat) := do
  let (negated, state) ← classOpening f
  let (s, depth) ← classBody f ((← remaining).length + 1) state
  return (← finishSet f negated s, depth + 1)

/-- A literal character of a pattern. -/
def literalNode (f : Flags) (c : Char) (byte : Bool) : Read Node := do
  if byte && !f.unicode && !Text.isAscii c then fail .partOfCharacter
  let s := CharSet.single c
  if f.anyCase then
    if f.unicode then return .char (.anyCase s)
    else return .char (.anyAsciiCase s)
  else return .char s

def dotNode (f : Flags) : Read Node := do
  unless f.unicode do fail .partOfCharacter
  let excluded : List Char :=
    if f.dotAll then [] else if f.anyLineBreak then ['\n', '\r'] else ['\n']
  return .char (.compl (.ofChars excluded))

def primitiveNode (f : Flags) : Primitive → Read Node
  | .literal c byte => literalNode f c byte
  | .set s => return .char s
  | .condition letter => return .assert (if letter = 'A' then .textStart else .textEnd)
  | .word a => return .assert (a !f.unicode)
  | .dot => dotNode f
  | .lineStart =>
    return .assert
      (if f.multiLine then (if f.anyLineBreak then .anyLineStart else .lineStart) else .textStart)
  | .lineEnd =>
    return .assert
      (if f.multiLine then (if f.anyLineBreak then .anyLineEnd else .lineEnd) else .textEnd)

def primitive (f : Flags) (c : Char) : Read Node := do
  match c with
  | '\\' => primitiveNode f (← escape f)
  | '.' =>
    advance
    primitiveNode f .dot
  | '^' =>
    advance
    primitiveNode f .lineStart
  | '$' =>
    advance
    primitiveNode f .lineEnd
  | _ =>
    advance
    primitiveNode f (.literal c false)

/-- An item of a sequence: what it matches (`none` for a change of flags), and how deep it is. -/
structure Item where
  node : Option Node
  depth : Nat

/-- Takes the last item, which is to be repeated. -/
def lastItem (items : List Item) : Read (Node × Nat × List Item) :=
  match items with
  | { node := some n, depth } :: before => return (n, depth, before)
  | _ => fail .nothingToRepeat

/-- Reads the question mark after a repetition, which inverts its preference. -/
def greediness (f : Flags) : Read Bool := do
  if (← peek) = some '?' then
    advance
    return f.swapGreed
  return !f.swapGreed

/-- Reads a number with blanks around it. -/
def bound (f : Flags) : Read Nat := do
  let cs := (← remaining).dropWhile Text.isBlank
  let rec digits (fuel : Nat) (cs : List Char) : List Char × List Char :=
    match fuel, cs with
    | fuel + 1, c :: rest =>
      if Text.isAsciiDigit c then
        let (ds, after) := digits fuel (skipped f.verbose rest)
        (c :: ds, after)
      else ([], cs)
    | _, _ => ([], cs)
  let (ds, rest) := digits cs.length cs
  setRemaining (skipped f.verbose (rest.dropWhile Text.isBlank))
  let n := ds.foldl (fun n c => n * 10 + (c.toNat - 48)) 0
  if ds.isEmpty ∨ 2 ^ (32 : Nat) ≤ n then fail .repetitionBounds else return n

/-- Reads the bounds of a repetition in braces; the opening brace is next. -/
def bounds (f : Flags) : Read (Nat × Option Nat) := do
  advanceAndSkip f.verbose
  discard (expectMore .repetitionBounds)
  let min ← bound f
  let c ← expectMore .repetitionBounds
  let max ← (do
    if c = ',' then
      advanceAndSkip f.verbose
      let c ← expectMore .repetitionBounds
      if c = '\x7d' then return none else return some (← bound f)
    else return some min : Read (Option Nat))
  let c ← expectMore .repetitionBounds
  unless c = '\x7d' do fail .repetitionBounds
  advanceAndSkip f.verbose
  if max.any (· < min) then fail .repetitionBounds
  return (min, max)

/-- Reads flags up to the colon or parenthesis that ends them. -/
def flagList (f : Flags) : Nat → Bool → Bool → List Char → Read (Flags × Char × Bool)
  | 0, _, _, _ => fail .flags
  | fuel + 1, negated, dangling, seen => do
    let c ← expectMore .flags
    if c = ':' ∨ c = ')' then
      if dangling then fail .flags
      advance
      return (f, c, seen.isEmpty && !negated)
    else if c = '-' then
      if negated then fail .flags
      advance
      flagList f fuel true true seen
    else if seen.contains c then fail .flags
    else
      match f.set c !negated with
      | none => fail .flags
      | some f =>
        advance
        flagList f fuel negated false (c :: seen)

/-- Whether a character may stand in a group name, or begin it. -/
def isNameChar (first : Bool) (c : Char) : Bool :=
  if first then c = '_' || Text.isAlphabetic c
  else c = '_' || c = '.' || c = '[' || c = ']' || Text.isAlphanumeric c

/-- Reads a group name up to and with its closing bracket. -/
def groupName : Read Unit := do
  let cs ← remaining
  let name := cs.takeWhile (· != '>')
  match cs.dropWhile (· != '>') with
  | [] => fail .groupName
  | _ :: rest =>
    match name with
    | [] => fail .groupName
    | c :: more =>
      unless isNameChar true c && more.all (isNameChar false) do fail .groupName
      let s ← get
      if s.names.contains name then fail .groupNameRepeated
      set { s with rest := rest, names := name :: s.names }

/-- How a group begins: with the flags for its inside, or as a mere change of flags. -/
inductive Opening where
  | group (inside : Flags)
  | change (after : Flags)

/-- Reads what stands between the parenthesis and the inside of a group. -/
def groupOpening (f : Flags) : Read Opening := do
  skip f.verbose
  let cs ← remaining
  match cs with
  | '?' :: '=' :: _ | '?' :: '!' :: _ | '?' :: '<' :: '=' :: _ | '?' :: '<' :: '!' :: _ =>
    fail .lookAround
  | '?' :: 'P' :: '<' :: rest | '?' :: '<' :: rest =>
    setRemaining rest
    groupName
    return .group f
  | '?' :: rest =>
    setRemaining rest
    let (inside, closing, bare) ← flagList f (rest.length + 1) false false []
    if closing = ':' then return .group inside
    else if bare then fail .nothingToRepeat
    else return .change inside
  | _ => return .group f

/-- A sequence of items, with its depth. -/
def sequence (items : List Item) : Node × Nat :=
  let items := items.reverse
  let depth := items.foldl (fun d i => max d i.depth) 0
  (Node.ofList (items.filterMap (·.node)), if items.length < 2 then depth else depth + 1)

/-- The branches of an alternation, with its depth. -/
def alternation (branches : List (Node × Nat)) : Node × Nat :=
  let branches := branches.reverse
  let depth := branches.foldl (fun d b => max d b.2) 0
  (Node.oneOf (branches.map (·.1)), if branches.length < 2 then depth else depth + 1)

/-- Reads the branches of a group, or of the whole pattern, up to its end. The items and branches
that were read before are given with the last one first. -/
def branches : Nat → Flags → List Item → List (Node × Nat) → Read (Node × Nat)
  | 0, _, _, _ => fail .groupNotClosed
  | fuel + 1, f, items, before => do
    skip f.verbose
    match ← peek with
    | none => return alternation (sequence items :: before)
    | some ')' => return alternation (sequence items :: before)
    | some '|' =>
      advance
      branches fuel f [] (sequence items :: before)
    | some '(' =>
      advance
      match ← groupOpening f with
      | .change after => branches fuel after ({ node := none, depth := 0 } :: items) before
      | .group inside =>
        let (n, depth) ← branches fuel inside [] []
        unless (← peek) = some ')' do fail .groupNotClosed
        advance
        branches fuel f ({ node := n, depth := depth + 1 } :: items) before
    | some '[' =>
      let (s, depth) ← bracketClass f
      branches fuel f ({ node := some (.char s), depth } :: items) before
    | some '\x7b' =>
      let (n, depth, rest) ← lastItem items
      let (min, max) ← bounds f
      let greedy ← greediness f
      branches fuel f ({ node := some (n.repeated min max greedy), depth := depth + 1 } :: rest)
        before
    | some c =>
      if c = '?' ∨ c = '*' ∨ c = '+' then
        let (n, depth, rest) ← lastItem items
        advance
        let greedy ← greediness f
        let (min, max) := if c = '?' then (0, some 1) else if c = '*' then (0, none) else (1, none)
        branches fuel f ({ node := some (n.repeated min max greedy), depth := depth + 1 } :: rest)
          before
      else
        let n ← primitive f c
        branches fuel f ({ node := some n, depth := 0 } :: items) before

/-- The deepest nesting that a pattern may have. -/
def maxDepth : Nat := 250

/-- The largest size of the automaton of a pattern, in bytes; its size is reckoned by `Node.size`. -/
def maxSize : Nat := 10 * 2 ^ (20 : Nat)

end Reader

/-- Reads the text of a pattern. -/
def Node.ofText (s : String) : Except PatternError Node := do
  let cs := s.toList
  let ((n, depth), state) ← (Reader.branches (cs.length + 1) {} [] []).run { rest := cs }
  if ¬ state.rest.isEmpty then throw .groupNotOpened
  if Reader.maxDepth < depth then throw .nestedTooDeep
  if Reader.maxSize < n.size then throw .tooLarge
  return n

end FixGrader.Regex
