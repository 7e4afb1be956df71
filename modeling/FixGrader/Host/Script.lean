import FixGrader.Text.Utf8
/-!
# Shell scripts

The commands of a script, and reading them. A script is read byte by byte: a text is a list of
characters each of which stands for one byte.
-/
namespace FixGrader.Host

/-- A text in which every character stands for a byte. -/
abbrev ByteText := List Char

namespace ByteText

def ofBytes (b : ByteArray) : ByteText := b.toList.map fun n => Char.ofNat n.toNat

def ofString (s : String) : ByteText := ofBytes (Text.toBytes s)

def toBytes (t : ByteText) : ByteArray := ⟨(t.map fun c => c.toNat.toUInt8).toArray⟩

end ByteText

/-- What is made of the value of a parameter. With `empty` an empty value counts as none. -/
inductive Operation where
  | value
  | length
  /-- Another text where there is no value, which may be kept as the value. -/
  | instead (empty keep : Bool) (text : ByteText)
  /-- Another text where there is a value. -/
  | provided (empty : Bool) (text : ByteText)
  /-- An error where there is no value. -/
  | required (empty : Bool) (message : ByteText)
  /-- The value without the part at its start or end that a pattern matches. -/
  | without (atEnd longest : Bool) (pattern : ByteText)
  deriving DecidableEq, Repr, Inhabited

/-- A piece of a word. What stands between quotes is not split at blanks and is no pattern. -/
inductive WordPart where
  | text (value : ByteText) (quoted : Bool)
  | parameter (name : ByteText) (operation : Operation) (quoted : Bool)
  | arithmetic (expression : ByteText)
  /-- What a script writes. -/
  | output (script : ByteText) (quoted : Bool)
  deriving DecidableEq, Repr, Inhabited

abbrev Word := List WordPart

/-- Where a stream is led. -/
inductive Redirect where
  | input (file : Word)
  | literal (text : Word)
  | output (stream : Nat) (file : Word) (append : Bool)
  | duplicate (stream source : Nat)
  deriving DecidableEq, Repr, Inhabited

inductive Command where
  | skip
  /-- A command that begins on the line with `below` lines after it. -/
  | simple (below : Nat) (assignments : List (ByteText × Word)) (words : List Word)
      (redirects : List Redirect)
  | sequence (first second : Command)
  | both (first second : Command)
  | either (first second : Command)
  | negated (command : Command)
  | pipe (first second : Command)
  | background (command : Command)
  | conditional (condition yes no : Command)
  | whileTrue (condition body : Command)
  | whileFalse (condition body : Command)
  | forEach (name : ByteText) (words : List Word) (body : Command)
  /-- The first of some commands with a pattern that matches a word. -/
  | choice (subject : Word) (branches : List (List Word × Command))
  | define (name : ByteText) (body : Command)
  | subshell (command : Command)
  | redirected (command : Command) (redirects : List Redirect)
  deriving Repr, Inhabited

namespace Script

def isBlank (c : Char) : Bool := c = ' ' || c = '\t'

/-- Whether a character ends a word. -/
def isBreak (c : Char) : Bool := isBlank c || "\n;&|<>()".toList.contains c

def isNameStart (c : Char) : Bool := c.isAlpha || c = '_'

def isNameChar (c : Char) : Bool := c.isAlphanum || c = '_'

/-- Blanks, and line breaks behind a backslash. -/
def skipBlanks : List Char → List Char
  | '\\' :: '\n' :: cs => skipBlanks cs
  | c :: cs => if isBlank c then skipBlanks cs else c :: cs
  | [] => []

def skipComment : List Char → List Char
  | '#' :: cs => cs.dropWhile (· != '\n')
  | cs => cs

/-- Blanks, comments and line breaks. -/
def skipLines : Nat → List Char → List Char
  | 0, cs => cs
  | fuel + 1, cs =>
    match skipComment (skipBlanks cs) with
    | '\n' :: rest => skipLines fuel rest
    | rest => rest

/-- The text up to the bracket that closes `depth` open ones, and what comes after it. -/
def untilClosed (opening closing : Char) : Nat → List Char → Option (List Char × List Char)
  | _, [] => none
  | depth, c :: cs =>
    if c = closing ∧ depth = 0 then some ([], cs)
    else
      let depth := if c = opening then depth + 1 else if c = closing then depth - 1 else depth
      (untilClosed opening closing depth cs).map fun (inside, rest) => (c :: inside, rest)

/-- What stands behind the name of a braced parameter. -/
def operationOf : List Char → Option Operation
  | [] => some .value
  | ':' :: '-' :: text => some (.instead true false text)
  | '-' :: text => some (.instead false false text)
  | ':' :: '=' :: text => some (.instead true true text)
  | '=' :: text => some (.instead false true text)
  | ':' :: '+' :: text => some (.provided true text)
  | '+' :: text => some (.provided false text)
  | ':' :: '?' :: text => some (.required true text)
  | '?' :: text => some (.required false text)
  | '%' :: '%' :: text => some (.without true true text)
  | '%' :: text => some (.without true false text)
  | '#' :: '#' :: text => some (.without false true text)
  | '#' :: text => some (.without false false text)
  | _ => none

/-- The name at the start of a text: that of a variable, a number, or a special one. -/
def parameterName (cs : List Char) : List Char :=
  match cs with
  | c :: _ =>
    if isNameStart c then cs.takeWhile isNameChar
    else if c.isDigit then cs.takeWhile Char.isDigit
    else if "?$#@*!-".toList.contains c then [c]
    else []
  | [] => []

/-- A parameter in braces. -/
def bracedParameter? (quoted : Bool) (inside : List Char) : Option WordPart :=
  let lengthOf? : Option WordPart := do
    guard (inside.head? = some '#' && 1 < inside.length)
    let name := parameterName inside.tail
    guard (!name.isEmpty && name.length + 1 = inside.length)
    return .parameter name .length quoted
  lengthOf? <|> do
    let name := parameterName inside
    guard (!name.isEmpty)
    return .parameter name (← operationOf (inside.drop name.length)) quoted

/-- What stands behind a dollar sign. -/
def dollar (quoted : Bool) : List Char → Option (WordPart × List Char)
  | '(' :: '(' :: cs => do
    let (inside, rest) ← untilClosed '(' ')' 0 cs
    match rest with
    | ')' :: rest => return (.arithmetic inside, rest)
    | _ => none
  | '(' :: cs => do
    let (inside, rest) ← untilClosed '(' ')' 0 cs
    return (.output inside quoted, rest)
  | '\x7b' :: cs => do
    let (inside, rest) ← untilClosed '\x7b' '\x7d' 0 cs
    return (← bracedParameter? quoted inside, rest)
  | c :: cs =>
    if isNameStart c then
      some (.parameter ((c :: cs).takeWhile isNameChar) .value quoted,
        (c :: cs).dropWhile isNameChar)
    else if c.isDigit || "?$#@*!-".toList.contains c then some (.parameter [c] .value quoted, cs)
    else some (.text ['$'] true, c :: cs)
  | [] => some (.text ['$'] true, [])

/-- What a quoted text is: what stands between double quotes, a document, or a text in braces that
stand between double quotes. -/
inductive Quoting where
  | marks
  | document
  | braces
  deriving DecidableEq, Repr, Inhabited

/-- The parts of a quoted text, up to its end. -/
def quotedParts (kind : Quoting) : Nat → List Char → Option (Word × List Char)
  | 0, _ => none
  | fuel + 1, cs =>
    let more (part : WordPart) (rest : List Char) := do
      let (parts, rest) ← quotedParts kind fuel rest
      return (part :: parts, rest)
    match cs with
    | [] => if kind = .marks then none else some ([], [])
    | '"' :: rest =>
      match kind with
      | .marks => some ([], rest)
      | .document => more (.text ['"'] true) rest
      | .braces => more (.text [] true) rest
    | '\\' :: '\n' :: rest => more (.text [] true) rest
    | '\\' :: c :: rest =>
      if c = '$' ∨ c = '\x60' ∨ c = '\\' ∨ (c = '"' ∧ kind ≠ .document) then
        more (.text [c] true) rest
      else more (.text ['\\', c] true) rest
    | '$' :: rest => do
      let (part, rest) ← dollar true rest
      more part rest
    | '\x60' :: rest =>
      more (.output (rest.takeWhile (· != '\x60')) true) ((rest.dropWhile (· != '\x60')).drop 1)
    | c :: rest => more (.text [c] true) rest

/-- Whether quotes around some parts make a field even if the parts come to nothing: not so if they
are all the parameters, of which there may be none. -/
def holdsField (inside : Word) : Bool :=
  !inside.any fun
    | .parameter ['@'] .value _ => true
    | _ => false

/-- The parts of a word up to a character that ends it. -/
def wordParts (ends : Char → Bool) : Nat → List Char → Option (Word × List Char)
  | 0, _ => none
  | fuel + 1, cs =>
    let more (parts : Word) (rest : List Char) := do
      let (after, rest) ← wordParts ends fuel rest
      return (parts ++ after, rest)
    match cs with
    | [] => some ([], [])
    | '\'' :: rest =>
      let inside := rest.takeWhile (· != '\'')
      match rest.drop inside.length with
      | _ :: rest => more [.text inside true] rest
      | [] => none
    | '"' :: rest => do
      let (inside, rest) ← quotedParts .marks (rest.length + 1) rest
      more (if holdsField inside then .text [] true :: inside else inside) rest
    | '\\' :: '\n' :: rest => more [] rest
    | '\\' :: c :: rest => more [.text [c] true] rest
    | '$' :: rest => do
      let (part, rest) ← dollar false rest
      more [part] rest
    | '\x60' :: rest =>
      more [.output (rest.takeWhile (· != '\x60')) false] ((rest.dropWhile (· != '\x60')).drop 1)
    | c :: rest => if ends c then some ([], c :: rest) else more [.text [c] false] rest

/-- A word, which is not empty. -/
def word? (cs : List Char) : Option (Word × List Char) := do
  let (parts, rest) ← wordParts isBreak (cs.length + 1) cs
  guard (rest.length < cs.length)
  return (parts, rest)

/-- The parts of a text that is one word as a whole. -/
def wholeWord? (cs : List Char) : Option Word :=
  (wordParts (fun _ => false) (cs.length + 1) cs).map (·.1)

/-- The plain text of a word without expansions. -/
def plain (w : Word) : ByteText :=
  w.flatMap fun
    | .text s _ => s
    | _ => []

/-- Splits off the lines up to the one that is `delimiter`. -/
def document (strip : Bool) (delimiter : ByteText) : Nat → List Char → List Char × List Char
  | 0, cs => (cs, [])
  | fuel + 1, cs =>
    if cs.isEmpty then ([], [])
    else
      let line := cs.takeWhile (· != '\n')
      let rest := cs.drop (line.length + 1)
      let line := if strip then line.dropWhile (· = '\t') else line
      if line = delimiter then ([], rest)
      else
        let (text, after) := document strip delimiter fuel rest
        (line ++ '\n' :: text, after)

/-- A document that begins on the next line, which is taken out of the text. -/
def hereDocument (strip : Bool) (cs : List Char) : Option (Redirect × List Char) := do
  let cs := skipBlanks cs
  let (delimiter, rest) ← word? cs
  let isQuoted := (cs.take (cs.length - rest.length)).any fun c => c = '\'' || c = '"' || c = '\\'
  let line := rest.takeWhile (· != '\n')
  let (text, after) :=
    document strip (plain delimiter) (rest.length + 1) (rest.drop (line.length + 1))
  let body ← if isQuoted then some [.text text true]
    else (quotedParts .document (text.length + 1) text).map (·.1)
  return (.literal body, line ++ '\n' :: after)

/-- A redirection of a stream. -/
def redirectOf (stream : Option Nat) : List Char → Option (Redirect × List Char)
  | '<' :: '<' :: '-' :: cs => hereDocument true cs
  | '<' :: '<' :: cs => hereDocument false cs
  | '<' :: cs => do
    let (file, rest) ← word? (skipBlanks cs)
    return (.input file, rest)
  | '>' :: '>' :: cs => do
    let (file, rest) ← word? (skipBlanks cs)
    return (.output (stream.getD 1) file true, rest)
  | '>' :: '&' :: c :: cs =>
    if c.isDigit then some (.duplicate (stream.getD 1) (c.toNat - '0'.toNat), cs) else none
  | '>' :: cs => do
    let (file, rest) ← word? (skipBlanks cs)
    return (.output (stream.getD 1) file false, rest)
  | _ => none

/-- Whether a redirection begins here. -/
def redirect? (cs : List Char) : Option (Option (Redirect × List Char)) :=
  match cs with
  | '<' :: _ | '>' :: _ => some (redirectOf none cs)
  | '0' :: '<' :: rest => some (redirectOf none ('<' :: rest))
  | c :: '>' :: rest =>
    if c.isDigit then some (redirectOf (some (c.toNat - '0'.toNat)) ('>' :: rest)) else none
  | _ => none

/-- An assignment to a variable. -/
def assignment? (cs : List Char) : Option (ByteText × Word × List Char) := do
  let name := cs.takeWhile isNameChar
  guard ((name.head?.map isNameStart).getD false)
  match cs.drop name.length with
  | '=' :: rest =>
    let (value, rest) ← wordParts isBreak (rest.length + 1) rest
    return (name, value, rest)
  | _ => none

/-- The parts of a simple command. -/
structure Simple where
  assignments : List (ByteText × Word)
  words : List Word
  redirects : List Redirect

/-- A simple command; its parts so far are given backwards. -/
def simple : Nat → Simple → List Char → Option (Simple × List Char)
  | 0, _, _ => none
  | fuel + 1, s, cs =>
    let cs := skipComment (skipBlanks cs)
    match redirect? cs with
    | some none => none
    | some (some (r, rest)) => simple fuel { s with redirects := s.redirects ++ [r] } rest
    | none =>
      match if s.words.isEmpty then assignment? cs else none with
      | some (name, value, rest) =>
        simple fuel { s with assignments := s.assignments ++ [(name, value)] } rest
      | none =>
        match cs with
        | [] => some (s, [])
        | c :: _ =>
          if isBreak c then some (s, cs)
          else do
            let (w, rest) ← word? cs
            simple fuel { s with words := s.words ++ [w] } rest

/-- Words that end a list of commands. -/
def closingWords : List String :=
  ["then", "do", "done", "fi", "else", "elif", "esac", "\x7d"]

/-- The plain word that comes next. -/
def nextWord (cs : List Char) : String := String.ofList (cs.takeWhile fun c => !isBreak c)

/-- What comes after a keyword. -/
def keyword? (word : String) (cs : List Char) : Option (List Char) :=
  let cs := skipLines (cs.length + 1) cs
  if nextWord cs = word then some (cs.drop word.length) else none

/-- The words up to the end of a line or a semicolon. -/
def wordList : Nat → List Char → Option (List Word × List Char)
  | 0, _ => none
  | fuel + 1, cs =>
    match skipBlanks cs with
    | [] => some ([], [])
    | c :: cs =>
      if isBreak c then some ([], c :: cs)
      else do
        let (w, rest) ← word? (c :: cs)
        let (ws, rest) ← wordList fuel rest
        return (w :: ws, rest)

/-- The words that a loop goes through: those behind `in`, or else all the parameters. -/
def forWords (cs : List Char) : Option (List Word × List Char) :=
  match keyword? "in" cs with
  | some rest => wordList (rest.length + 1) rest
  | none => some ([[.parameter ['@'] .value true]], cs)

/-- The patterns of a branch, up to and with the bracket behind them. -/
def patternWords : Nat → List Char → Option (List Word × List Char)
  | 0, _ => none
  | fuel + 1, cs => do
    let (w, rest) ← word? (skipBlanks cs)
    match skipBlanks rest with
    | ')' :: rest => return ([w], rest)
    | '|' :: rest =>
      let (ws, rest) ← patternWords fuel rest
      return (w :: ws, rest)
    | _ => none

/-- The name of a function that is defined here, and what follows its brackets. -/
def functionHead? (cs : List Char) : Option (ByteText × List Char) := do
  let name := cs.takeWhile isNameChar
  guard ((name.head?.map isNameStart).getD false)
  match skipBlanks (cs.drop name.length) with
  | '(' :: rest =>
    match skipBlanks rest with
    | ')' :: rest => return (name, rest)
    | _ => none
  | _ => none

/-- The redirections behind a compound command. -/
def redirects : Nat → List Char → Option (List Redirect × List Char)
  | 0, _ => none
  | fuel + 1, cs =>
    match redirect? (skipBlanks cs) with
    | none => some ([], cs)
    | some none => none
    | some (some (r, rest)) => do
      let (rs, rest) ← redirects fuel rest
      return (r :: rs, rest)

mutual

/-- Commands up to a word or a bracket that closes them. -/
def list : Nat → List Char → Option (Command × List Char)
  | 0, _ => none
  | fuel + 1, cs =>
    let cs := skipLines (cs.length + 1) cs
    if cs.isEmpty ∨ cs.head? = some ')' ∨ [';', ';'].isPrefixOf cs ∨
        closingWords.contains (nextWord cs) then
      some (.skip, cs)
    else do
      let (first, rest) ← andOr fuel cs
      match skipComment (skipBlanks rest) with
      | ';' :: ';' :: rest => return (first, ';' :: ';' :: rest)
      | ';' :: rest | '\n' :: rest =>
        let (second, rest) ← list fuel rest
        return (.sequence first second, rest)
      | '&' :: rest =>
        let (second, rest) ← list fuel rest
        return (.sequence (.background first) second, rest)
      | rest => return (first, rest)

/-- Pipelines joined by `&&` and `||`. -/
def andOr : Nat → List Char → Option (Command × List Char)
  | 0, _ => none
  | fuel + 1, cs => do
    let (first, rest) ← pipeline fuel cs
    andOrMore fuel first rest

def andOrMore : Nat → Command → List Char → Option (Command × List Char)
  | 0, _, _ => none
  | fuel + 1, first, cs =>
    match skipBlanks cs with
    | '&' :: '&' :: rest => do
      let (second, rest) ← pipeline fuel (skipLines (rest.length + 1) rest)
      andOrMore fuel (.both first second) rest
    | '|' :: '|' :: rest => do
      let (second, rest) ← pipeline fuel (skipLines (rest.length + 1) rest)
      andOrMore fuel (.either first second) rest
    | _ => some (first, cs)

/-- Commands joined by pipes. -/
def pipeline : Nat → List Char → Option (Command × List Char)
  | 0, _ => none
  | fuel + 1, cs =>
    let cs := skipBlanks cs
    if nextWord cs = "!" then do
      let (c, rest) ← pipeline fuel (cs.drop 1)
      return (.negated c, rest)
    else do
      let (first, rest) ← command fuel cs
      match skipBlanks rest with
      | '|' :: '|' :: after => return (first, '|' :: '|' :: after)
      | '|' :: after =>
        let (second, rest) ← pipeline fuel (skipLines (after.length + 1) after)
        return (.pipe first second, rest)
      | _ => return (first, rest)

/-- One command, compound or simple. -/
def command : Nat → List Char → Option (Command × List Char)
  | 0, _ => none
  | fuel + 1, cs =>
    let compound (c : Command) (rest : List Char) := do
      let (rs, rest) ← redirects (rest.length + 1) rest
      return (if rs.isEmpty then c else .redirected c rs, rest)
    if cs.head? = some '(' then do
      let (c, rest) ← list fuel (cs.drop 1)
      match skipLines (rest.length + 1) rest with
      | ')' :: rest => compound (.subshell c) rest
      | _ => none
    else
      match nextWord cs with
      | "\x7b" => do
        let (c, rest) ← list fuel (cs.drop 1)
        compound c (← keyword? "\x7d" rest)
      | "if" => do
        let (c, rest) ← ifCommand fuel (cs.drop 2)
        compound c rest
      | "while" => do
        let (condition, rest) ← list fuel (cs.drop 5)
        let (body, rest) ← list fuel (← keyword? "do" rest)
        compound (.whileTrue condition body) (← keyword? "done" rest)
      | "until" => do
        let (condition, rest) ← list fuel (cs.drop 5)
        let (body, rest) ← list fuel (← keyword? "do" rest)
        compound (.whileFalse condition body) (← keyword? "done" rest)
      | "for" => do
        let cs := skipBlanks (cs.drop 3)
        let name := cs.takeWhile isNameChar
        let (words, rest) ← forWords (cs.drop name.length)
        let rest := match skipBlanks rest with
          | ';' :: rest => rest
          | rest => rest
        let (body, rest) ← list fuel (← keyword? "do" rest)
        compound (.forEach name words body) (← keyword? "done" rest)
      | "case" => do
        let (subject, rest) ← word? (skipBlanks (cs.drop 4))
        let (choices, rest) ← branches fuel (← keyword? "in" rest)
        compound (.choice subject choices) rest
      | _ =>
        match functionHead? cs with
        | some (name, rest) => do
          let (body, rest) ← command fuel (skipLines (rest.length + 1) rest)
          return (.define name body, rest)
        | none => do
          let (s, rest) ← simple (cs.length + 1) ⟨[], [], []⟩ cs
          guard (!(s.assignments.isEmpty && s.words.isEmpty && s.redirects.isEmpty))
          return (.simple (cs.count '\n') s.assignments s.words s.redirects, rest)

/-- The branches of a `case` up to and with the word that closes it. -/
def branches : Nat → List Char → Option (List (List Word × Command) × List Char)
  | 0, _ => none
  | fuel + 1, cs =>
    match keyword? "esac" cs with
    | some rest => some ([], rest)
    | none => do
      let cs := skipLines (cs.length + 1) cs
      let (patterns, rest) ← patternWords (cs.length + 1)
        (if cs.head? = some '(' then cs.drop 1 else cs)
      let (body, rest) ← list fuel rest
      match skipLines (rest.length + 1) rest with
      | ';' :: ';' :: rest =>
        let (more, rest) ← branches fuel rest
        return ((patterns, body) :: more, rest)
      | rest => return ([(patterns, body)], ← keyword? "esac" rest)

/-- What comes behind `if` or `elif`. -/
def ifCommand : Nat → List Char → Option (Command × List Char)
  | 0, _ => none
  | fuel + 1, cs => do
    let (condition, rest) ← list fuel cs
    let (yes, rest) ← list fuel (← keyword? "then" rest)
    match keyword? "elif" rest with
    | some rest =>
      let (no, rest) ← ifCommand fuel rest
      return (.conditional condition yes no, rest)
    | none =>
      match keyword? "else" rest with
      | some rest =>
        let (no, rest) ← list fuel rest
        return (.conditional condition yes no, ← keyword? "fi" rest)
      | none => return (.conditional condition yes .skip, ← keyword? "fi" rest)

end

/-- Reads a whole script. -/
def ofText? (cs : ByteText) : Option Command := do
  let (c, rest) ← list (8 * cs.length + 16) cs
  guard (rest.isEmpty)
  return c

end Script

end FixGrader.Host
