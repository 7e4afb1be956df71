import FixGrader.Host.Arithmetic
/-!
# Small programs

What the small programs of a system write for their arguments and their input. A status of zero
means that all went well.
-/
namespace FixGrader.Host.Program

/-- Up to `count` octal digits. -/
def octal (count : Nat) (cs : List Char) : Option (Nat × List Char) :=
  let digits := (cs.take count).takeWhile fun c => '0' ≤ c && c ≤ '7'
  if digits.isEmpty then none
  else some (digits.foldl (fun n c => 8 * n + (c.toNat - '0'.toNat)) 0, cs.drop digits.length)

/-- The byte for a letter behind a backslash. -/
def escapeLetter? (c : Char) : Option Char :=
  match c with
  | 'a' => some '\x07'
  | 'b' => some '\x08'
  | 'f' => some '\x0c'
  | 'n' => some '\n'
  | 'r' => some '\r'
  | 't' => some '\t'
  | 'v' => some '\x0b'
  | '\\' => some '\\'
  | _ => none

/-- What stands behind a backslash, as one byte. -/
def escape? (cs : List Char) : Option (Char × List Char) :=
  match octal 3 cs with
  | some (n, rest) => some (Char.ofNat (n % 256), rest)
  | none =>
    match cs with
    | c :: rest => (escapeLetter? c).map (·, rest)
    | [] => none

/-- Replaces escapes; `\c` ends the text, and all that would follow it. -/
def unescape : Nat → ByteText → ByteText × Bool
  | 0, _ => ([], false)
  | fuel + 1, cs =>
    match cs with
    | [] => ([], false)
    | '\\' :: 'c' :: _ => ([], true)
    | '\\' :: '0' :: rest =>
      let (n, rest) := (octal 3 rest).getD (0, rest)
      let (text, ended) := unescape fuel rest
      (Char.ofNat (n % 256) :: text, ended)
    | '\\' :: c :: rest =>
      let (text, ended) := unescape fuel rest
      match escapeLetter? c with
      | some d => (d :: text, ended)
      | none => ('\\' :: c :: text, ended)
    | c :: rest =>
      let (text, ended) := unescape fuel rest
      (c :: text, ended)

def joined (args : List ByteText) : ByteText := List.intercalate [' '] args

/-- The `echo` of a shell, which replaces escapes. -/
def shellEcho (args : List ByteText) : ByteText :=
  let (newline, args) := match args with
    | ['-', 'n'] :: rest => ([], rest)
    | args => (['\n'], args)
  let text := joined args
  let (text, ended) := unescape (text.length + 1) text
  if ended then text else text ++ newline

/-- Whether an argument is an option of `echo`. -/
def isEchoOption : ByteText → Bool
  | '-' :: c :: cs => (c :: cs).all fun c => c = 'n' || c = 'e' || c = 'E'
  | _ => false

/-- The `echo` of the system, which replaces escapes only with `-e`. -/
def systemEcho (args : List ByteText) : ByteText :=
  let options := (args.takeWhile isEchoOption).flatten
  let text := joined (args.dropWhile isEchoOption)
  let escapes := (options.filter fun c => c = 'e' || c = 'E').getLast? = some 'e'
  let (text, ended) := if escapes then unescape (text.length + 1) text else (text, false)
  if ended || options.contains 'n' then text else text ++ ['\n']

/-- Fills a text with blanks or zeros up to a width. -/
def pad (left zero : Bool) (width : Nat) (text : ByteText) : ByteText :=
  let fill := List.replicate (width - text.length) (if zero then '0' else ' ')
  if left then text ++ List.replicate (width - text.length) ' ' else fill ++ text

/-- The number that an argument of `printf` stands for, and what is wrong with it. A quote in front
stands for the code of the character behind it. -/
def numberArgument (arg : ByteText) : Int × Option String :=
  match arg with
  | '\'' :: c :: _ | '"' :: c :: _ => (c.toNat, none)
  | _ =>
    match Arithmetic.number? arg with
    | some n => (n, none)
    | none =>
      let digits := arg.takeWhile Char.isDigit
      if digits.isEmpty then (0, some "expected numeric value")
      else ((Arithmetic.ofDigits? 10 digits).getD 0, some "not completely converted")

/-- What one pass over the format of `printf` leads to. -/
structure Formatted where
  text : ByteText
  /-- The arguments that are left. -/
  left : List ByteText
  /-- Whether the text is at its end. -/
  ended : Bool
  /-- The arguments that are no numbers, with what is wrong. -/
  faults : List (ByteText × String)

/-- A number in the form that a letter stands for. -/
def numeral? (letter : Char) (n : Int) : Option ByteText :=
  let unsigned := (n % 2 ^ (64 : Nat)).toNat
  match letter with
  | 'd' | 'i' => some (toString n).toList
  | 'u' => some (toString unsigned).toList
  | 'x' => some (Nat.toDigits 16 unsigned)
  | 'X' => some ((Nat.toDigits 16 unsigned).map Char.toUpper)
  | 'o' => some (Nat.toDigits 8 unsigned)
  | _ => none

/-- One pass over the format of `printf`. -/
def format : Nat → ByteText → List ByteText → Formatted
  | 0, _, args => ⟨[], args, true, []⟩
  | fuel + 1, cs, args =>
    let more (text : ByteText) (rest : List Char) (args : List ByteText)
        (faults : List (ByteText × String)) : Formatted :=
      let after := format fuel rest args
      { after with text := text ++ after.text, faults := faults ++ after.faults }
    match cs with
    | [] => ⟨[], args, false, []⟩
    | '\\' :: rest =>
      match escape? rest with
      | some (c, rest) => more [c] rest args []
      | none => more ['\\'] rest args []
    | '%' :: '%' :: rest => more ['%'] rest args []
    | '%' :: rest =>
      let flags := rest.takeWhile fun c => c = '-' || c = '0'
      let rest := rest.drop flags.length
      let digits := rest.takeWhile Char.isDigit
      let width := (Arithmetic.ofDigits? 10 digits).getD 0
      let rest := rest.drop digits.length
      let arg := args.headD []
      let shown (zero : Bool) (text : ByteText) := pad (flags.contains '-') zero width text
      match rest with
      | 's' :: rest => more (shown false arg) rest args.tail []
      | 'b' :: rest =>
        let (text, ended) := unescape (arg.length + 1) arg
        if ended then ⟨text, args.tail, true, []⟩ else more (shown false text) rest args.tail []
      | 'c' :: rest => more (shown false (arg.take 1)) rest args.tail []
      | letter :: rest =>
        let (n, fault) := numberArgument arg
        match numeral? letter n with
        | some text =>
          more (shown (flags.contains '0') text) rest args.tail (fault.toList.map (arg, ·))
        | none => more ['%'] (letter :: rest) args []
      | [] => more ['%'] [] args []
    | c :: rest => more [c] rest args []

/-- The text of `printf`, and the arguments that are no numbers: the format is used again while
there are arguments left. -/
def printf (fmt : ByteText) (args : List ByteText) : ByteText × List (ByteText × String) :=
  rounds (args.length + 1) args
where
  rounds : Nat → List ByteText → ByteText × List (ByteText × String)
    | 0, _ => ([], [])
    | fuel + 1, args =>
      let pass := format (fmt.length + 1) fmt args
      if pass.ended || pass.left.isEmpty || pass.left.length = args.length then
        (pass.text, pass.faults)
      else
        let (text, faults) := rounds fuel pass.left
        (pass.text ++ text, pass.faults ++ faults)

/-- The last part of a path. -/
def baseName (path : ByteText) : ByteText :=
  let kept := (path.reverse.dropWhile (· = '/'))
  if kept.isEmpty then path.take 1 else (kept.takeWhile (· != '/')).reverse

/-- The path of the directory that a path lies in. -/
def directoryName (path : ByteText) : ByteText :=
  let above := ((path.reverse.dropWhile (· = '/')).dropWhile (· != '/')).dropWhile (· = '/')
  if !above.isEmpty then above.reverse
  else if path.head? = some '/' then ['/']
  else ['.']

/-- The lines of `seq`: the numbers from the first to the last one. -/
def sequence (args : List ByteText) : Option ByteText := do
  let numbers ← args.mapM Arithmetic.decimal?
  let (first, step, last) ← match numbers with
    | [last] => some (1, 1, last)
    | [first, last] => some (first, 1, last)
    | [first, step, last] => some (first, step, last)
    | _ => none
  guard (step != 0)
  let count := if 0 < step then (last - first) / step + 1 else (first - last) / (-step) + 1
  return (List.range count.toNat).flatMap fun (i : Nat) =>
    (toString (first + step * (i : Int))).toList ++ ['\n']

/-- How many lines, words and bytes there are. -/
def counts (input : ByteText) : Nat × Nat × Nat :=
  let isGap (c : Char) : Bool := c = ' ' || c = '\n' || c = '\t' || c = '\r'
  let (words, _) := input.foldl (fun (n, inside) c =>
    if isGap c then (n, false) else (if inside then n else n + 1, true)) (0, false)
  (input.count '\n', words, input.length)

/-- The numbers that `wc` shows for a text, and with which name behind them. -/
def wordCount (option : Option Char) (text name : ByteText) : ByteText :=
  let (lines, words, bytes) := counts text
  let shown := match option with
    | some 'c' => [bytes]
    | some 'l' => [lines]
    | some 'w' => [words]
    | _ => [lines, words, bytes]
  let numbers := match shown with
    | [n] => (toString n).toList
    | ns =>
      let width := if name.isEmpty then 7 else (toString bytes).length
      joined (ns.map fun n => pad false false width (toString n).toList)
  numbers ++ (if name.isEmpty then [] else ' ' :: name) ++ ['\n']

/-- The characters of a set, in which a dash between two of them stands for those between. -/
def charSet : Nat → List Char → List Char
  | 0, _ => []
  | fuel + 1, cs =>
    match cs with
    | '\\' :: rest =>
      let (c, rest) := (escape? rest).getD (rest.headD '\\', rest.tail)
      c :: charSet fuel rest
    | a :: '-' :: b :: rest =>
      (List.range (b.toNat + 1 - a.toNat)).map (fun n => Char.ofNat (a.toNat + n)) ++
        charSet fuel rest
    | c :: rest => c :: charSet fuel rest
    | [] => []

/-- What `tr` makes of its input. -/
def translate (args : List ByteText) (input : ByteText) : Option ByteText :=
  let set (text : ByteText) : List Char := charSet text.length text
  match args with
  | [['-', 'd'], gone] =>
    let gone := set gone
    some (input.filter fun c => !gone.contains c)
  | [source, target] =>
    let source := set source
    let target := set target
    some (input.map fun c =>
      match source.idxOf? c with
      | some i => (target[i]?.or target.getLast?).getD c
      | none => c)
  | _ => none

/-- The lines of a text, each with its end. -/
def lines (text : ByteText) : List ByteText :=
  let (done, last) := text.foldl (fun (done, line) c =>
    if c = '\n' then ((c :: line).reverse :: done, []) else (done, c :: line))
    (([] : List ByteText), ([] : ByteText))
  (if last.isEmpty then done else last.reverse :: done).reverse

/-- How much of a text is taken. -/
inductive Extent where
  | lines (count : Nat)
  | bytes (count : Nat)
  deriving DecidableEq, Repr, Inhabited

/-- The extent that the options of `head` or `tail` ask for, and the other arguments. -/
def extentOf (args : List ByteText) : Extent × List ByteText :=
  let count (digits : ByteText) : Nat := ((Arithmetic.decimal? digits).getD 10).toNat
  match args with
  | ['-', 'n'] :: n :: rest => (.lines (count n), rest)
  | ['-', 'c'] :: n :: rest => (.bytes (count n), rest)
  | ('-' :: 'n' :: n) :: rest => (.lines (count n), rest)
  | ('-' :: 'c' :: n) :: rest => (.bytes (count n), rest)
  | ('-' :: d :: n) :: rest => (.lines (count (d :: n)), rest)
  | rest => (.lines 10, rest)

/-- What `head` takes of a text. -/
def head (extent : Extent) (text : ByteText) : ByteText :=
  match extent with
  | .lines count => ((lines text).take count).flatten
  | .bytes count => text.take count

/-- What `tail` takes of a text. -/
def tail (extent : Extent) (text : ByteText) : ByteText :=
  match extent with
  | .lines count => ((lines text).drop ((lines text).length - count)).flatten
  | .bytes count => text.drop (text.length - count)

/-- How many milliseconds `sleep` takes. -/
def sleepTime? (arg : ByteText) : Option Nat :=
  let whole := arg.takeWhile Char.isDigit
  let value (digits : List Char) : Nat :=
    digits.foldl (fun n c => 10 * n + (c.toNat - '0'.toNat)) 0
  match arg.drop whole.length with
  | [] => if whole.isEmpty then none else some (value whole * 1000)
  | ['s'] => if whole.isEmpty then none else some (value whole * 1000)
  | ['m'] => if whole.isEmpty then none else some (value whole * 60000)
  | '.' :: part =>
    if part.all Char.isDigit then
      some (value whole * 1000 + value ((part ++ ['0', '0', '0']).take 3))
    else none
  | _ => none

end FixGrader.Host.Program
