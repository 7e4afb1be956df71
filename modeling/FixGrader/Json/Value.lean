import FixGrader.Number.Shortest
/-!
# JSON values

Values with their members in the order in which they were written, and their text over several
lines: two spaces of indentation, and only quotes, backslashes and control characters escaped.
-/
namespace FixGrader

/-- A number: an integer between `-2 ^ 63` and `2 ^ 64 - 1`, or a double. -/
inductive Json.Number where
  | int (value : Int)
  | real (value : Double)
  deriving DecidableEq, Repr, Inhabited

inductive Json where
  | null
  | bool (value : Bool)
  | number (value : Json.Number)
  | string (value : String)
  | array (items : List Json)
  | object (members : List (String × Json))
  deriving Repr, Inhabited

namespace Json

/-- Puts a member into an object: the value of a key that is there is replaced in its place, a new
key goes to the end. -/
def insert (key : String) (value : Json) : List (String × Json) → List (String × Json)
  | [] => [(key, value)]
  | (k, v) :: rest => if k = key then (k, value) :: rest else (k, v) :: insert key value rest

/-- The value of a key among the members of an object. -/
def find? (key : String) (members : List (String × Json)) : Option Json :=
  (members.find? (·.1 = key)).map (·.2)

def members? : Json → Option (List (String × Json))
  | .object members => some members
  | _ => none

def string? : Json → Option String
  | .string s => some s
  | _ => none

/-- The value under a key; `none` when this is no object or has no such key. -/
def get? (j : Json) (key : String) : Option Json := j.members?.bind (find? key)

def ofNat (n : Nat) : Json := .number (.int n)

def ofStrings (l : List String) : Json := .array (l.map .string)

/-- The value, or `null` when there is none. -/
def ofOption {α : Type} (f : α → Json) : Option α → Json
  | none => .null
  | some a => f a

def hexDigitText (n : Nat) : String := ("0123456789abcdef".toList.getD n '0').toString

/-- One character inside a quoted text. -/
def escapeChar (c : Char) : String :=
  if c = '"' then "\\\""
  else if c = '\\' then "\\\\"
  else if c.toNat < 0x20 then
    if c = '\n' then "\\n"
    else if c = '\t' then "\\t"
    else if c = '\r' then "\\r"
    else if c.toNat = 8 then "\\b"
    else if c.toNat = 12 then "\\f"
    else "\\u00" ++ hexDigitText (c.toNat / 16) ++ hexDigitText (c.toNat % 16)
  else c.toString

def quote (s : String) : String := "\"" ++ String.join (s.toList.map escapeChar) ++ "\""

def Number.text : Number → String
  | .int i => toString i
  | .real d => d.text

/-- A new line with the indentation of a nesting level. -/
def newline (level : Nat) : String := "\n" ++ String.ofList (List.replicate (2 * level) ' ')

mutual

/-- The text of a value that stands at a nesting level. -/
def textAt (level : Nat) : Json → String
  | .null => "null"
  | .bool b => if b then "true" else "false"
  | .number n => n.text
  | .string s => quote s
  | .array [] => "[]"
  | .array (j :: js) =>
    "[" ++ newline (level + 1) ++ textAt (level + 1) j ++ itemsAt (level + 1) js ++
      newline level ++ "]"
  | .object [] => "\x7b\x7d"
  | .object ((k, j) :: ms) =>
    "\x7b" ++ newline (level + 1) ++ quote k ++ ": " ++ textAt (level + 1) j ++
      membersAt (level + 1) ms ++ newline level ++ "\x7d"

/-- The items after the first one. -/
def itemsAt (level : Nat) : List Json → String
  | [] => ""
  | j :: js => "," ++ newline level ++ textAt level j ++ itemsAt level js

/-- The members after the first one. -/
def membersAt (level : Nat) : List (String × Json) → String
  | [] => ""
  | (k, j) :: ms =>
    "," ++ newline level ++ quote k ++ ": " ++ textAt level j ++ membersAt level ms

end

/-- The text of a value, over several lines. -/
def pretty (j : Json) : String := textAt 0 j

end Json

end FixGrader
