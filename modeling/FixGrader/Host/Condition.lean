import FixGrader.Host.Shell
/-!
# Conditions

The conditions of `test`: comparisons of texts and numbers, and questions about files.
-/
namespace FixGrader.Host.Condition

/-- Why a condition has no answer. -/
inductive Error where
  | unexpectedOperator (word : ByteText)
  | notANumber (word : ByteText)
  deriving DecidableEq, Repr, Inhabited

def Error.message : Error → String
  | unexpectedOperator word => Shell.textOf word ++ ": unexpected operator"
  | notANumber word => "Illegal number: " ++ Shell.textOf word

def compareNumbers? (operator : String) : Option (Int → Int → Bool) :=
  match operator with
  | "-eq" => some fun a b => a == b
  | "-ne" => some fun a b => a != b
  | "-lt" => some fun a b => decide (a < b)
  | "-le" => some fun a b => decide (a ≤ b)
  | "-gt" => some fun a b => decide (b < a)
  | "-ge" => some fun a b => decide (b ≤ a)
  | _ => none

def number (word : ByteText) : Except Error Int :=
  match Arithmetic.decimal? (word.filter (· != ' ')) with
  | some n => .ok n
  | none => .error (.notANumber word)

/-- The question that an operator asks about a file, if there is one. -/
def fileTest? (operator : String) : Option (Entry → Bool) :=
  match operator with
  | "-e" => some fun _ => true
  | "-f" => some fun
    | .file .. => true
    | .directory _ => false
  | "-d" => some fun
    | .file .. => false
    | .directory _ => true
  | "-r" => some fun
    | .file _ readable _ _ => readable
    | .directory _ => true
  | "-w" => some fun
    | .file _ _ writable _ => writable
    | .directory writable => writable
  | "-x" => some fun
    | .file _ _ _ executable => executable
    | .directory _ => true
  | "-s" => some fun
    | .file bytes _ _ _ => bytes.size != 0
    | .directory _ => true
  | "-h" | "-L" => some fun _ => false
  | _ => none

/-- A condition of one operator and its operand. -/
def unary? (disk : Disk) (operator operand : ByteText) : Option Bool :=
  match String.ofList operator with
  | "-z" => some operand.isEmpty
  | "-n" => some !operand.isEmpty
  | operator =>
    (fileTest? operator).map fun test =>
      match disk.locate (Shell.pathOf operand) with
      | .ok place => (disk.entry? place).any test
      | .error _ => false

/-- A condition of two operands and the operator between them. -/
def binary? (operator first second : ByteText) : Option (Except Error Bool) :=
  match String.ofList operator with
  | "=" => some (.ok (first = second))
  | "!=" => some (.ok (first != second))
  | operator =>
    (compareNumbers? operator).map fun compare => do
      return compare (← number first) (← number second)

mutual

/-- Reads a condition as alternatives. -/
def alternatives (disk : Disk) : Nat → List ByteText → Except Error (Bool × List ByteText)
  | 0, ws => .error (.unexpectedOperator (ws.headD []))
  | fuel + 1, ws => do
    let (a, rest) ← conjunctions disk fuel ws
    match rest with
    | ['-', 'o'] :: rest =>
      let (b, rest) ← alternatives disk fuel rest
      return (a || b, rest)
    | rest => return (a, rest)

def conjunctions (disk : Disk) : Nat → List ByteText → Except Error (Bool × List ByteText)
  | 0, ws => .error (.unexpectedOperator (ws.headD []))
  | fuel + 1, ws => do
    let (a, rest) ← primary disk fuel ws
    match rest with
    | ['-', 'a'] :: rest =>
      let (b, rest) ← conjunctions disk fuel rest
      return (a && b, rest)
    | rest => return (a, rest)

/-- A negation, a comparison, a question, or a word that is not empty. -/
def primary (disk : Disk) : Nat → List ByteText → Except Error (Bool × List ByteText)
  | 0, ws => .error (.unexpectedOperator (ws.headD []))
  | fuel + 1, ws =>
    match ws with
    | [] => .ok (false, [])
    | [a] => .ok (!a.isEmpty, [])
    | a :: b :: rest =>
      let compared := match rest with
        | c :: rest => (binary? b a c).map (·, rest)
        | [] => none
      match compared with
      | some (.ok holds, rest) => .ok (holds, rest)
      | some (.error e, _) => .error e
      | none =>
        if a = ['!'] then do
          let (holds, rest) ← primary disk fuel (b :: rest)
          return (!holds, rest)
        else
          match unary? disk a b with
          | some holds => .ok (holds, rest)
          | none => .ok (!a.isEmpty, b :: rest)

end

/-- Whether the condition of some words holds. -/
def holds (disk : Disk) (ws : List ByteText) : Except Error Bool := do
  let (answer, rest) ← alternatives disk (3 * ws.length + 3) ws
  if rest.isEmpty then return answer
  else throw (.unexpectedOperator (ws.headD []))

end FixGrader.Host.Condition
