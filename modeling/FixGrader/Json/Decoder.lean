import FixGrader.Json.Document
/-!
# Values from documents

A decoder asks a document for a value of some type. It knows how many nesting levels are left, for
containers may be nested up to 127 deep. Records are objects with known member names, or arrays of
their fields in order; members of other names are passed over unseen.
-/
namespace FixGrader.Json

/-- Reads a value off a document, given the number of nesting levels that are left. -/
abbrev Decoder (α : Type) := Nat → Document → Option α

/-- The number of nesting levels that a text may have. -/
def maxDepth : Nat := 127

mutual

/-- The value of a whole document. A repeated key keeps its first place and its last value. -/
def valueAt : Nat → Document → Option Json
  | _, .null => some .null
  | _, .bool b => some (.bool b)
  | _, .number n => n.map .number
  | _, .string s => s.map .string
  | depth, .array items =>
    match depth with
    | 0 => none
    | depth + 1 => (itemValues depth items).map .array
  | depth, .object members =>
    match depth with
    | 0 => none
    | depth + 1 => (memberValues depth members []).map .object

def itemValues : Nat → List Document → Option (List Json)
  | _, [] => some []
  | depth, d :: ds => do
    let j ← valueAt depth d
    return j :: (← itemValues depth ds)

def memberValues : Nat → List (Option String × Document) → List (String × Json) →
    Option (List (String × Json))
  | _, [], acc => some acc
  | depth, (key, d) :: ms, acc => do
    let key ← key
    let j ← valueAt depth d
    memberValues depth ms (insert key j acc)

end

namespace Decoder

variable {α β : Type}

def value : Decoder Json := valueAt

def map (f : α → β) (d : Decoder α) : Decoder β := fun depth doc => (d depth doc).map f

def filterMap (f : α → Option β) (d : Decoder α) : Decoder β :=
  fun depth doc => (d depth doc).bind f

def string : Decoder String
  | _, .string s => s
  | _, _ => none

def bool : Decoder Bool
  | _, .bool b => some b
  | _, _ => none

def int : Decoder Int
  | _, .number (some (.int i)) => some i
  | _, _ => none

/-- A natural number below `2 ^ bits`. -/
def natural (bits : Nat) : Decoder Nat :=
  int.filterMap fun i => if 0 ≤ i ∧ i < 2 ^ bits then some i.toNat else none

/-- A double; integers are rounded to one. -/
def double : Decoder Double
  | _, .number (some (.int i)) => some (Double.ofInt i)
  | _, .number (some (.real d)) => some d
  | _, _ => none

/-- `null`, or a value. -/
def nullable (d : Decoder α) : Decoder (Option α)
  | _, .null => some none
  | depth, doc => (d depth doc).map some

def list (d : Decoder α) : Decoder (List α)
  | depth + 1, .array items => items.mapM (d depth)
  | _, _ => none

/-- All members of an object, in order, repeated keys included. -/
def members (d : Decoder α) : Decoder (List (String × α))
  | depth + 1, .object ms => ms.mapM fun (key, doc) => do return (← key, ← d depth doc)
  | _, _ => none

/-- One of some words, written as a string or as the only key of an object whose value is null. -/
def keyword (ofWord? : String → Option α) : Decoder α
  | _, .string (some s) => ofWord? s
  | _ + 1, .object [(some s, .null)] => ofWord? s
  | _, _ => none

/-- One field of a record as it was found. -/
inductive Slot where
  | found (depth : Nat) (document : Document)
  /-- The object has no member of this name. -/
  | noMember
  /-- The array ends before this field. -/
  | noItem

namespace Slot

def required (d : Decoder α) : Slot → Option α
  | .found depth doc => d depth doc
  | _ => none

/-- A field that may be null, and whose member may be missing. -/
def nullable (d : Decoder α) : Slot → Option (Option α)
  | .found depth doc => Decoder.nullable d depth doc
  | .noMember => some none
  | .noItem => none

/-- A field that may be missing in either form. -/
def orElse (fallback : α) (d : Decoder α) : Slot → Option α
  | .found depth doc => d depth doc
  | _ => some fallback

end Slot

/-- The member of a name, which must not be repeated. -/
def slotNamed (depth : Nat) (ms : List (Option String × Document)) (name : String) : Option Slot :=
  match ms.filter (·.1 = some name) with
  | [] => some .noMember
  | [(_, doc)] => some (.found depth doc)
  | _ => none

/-- The fields of an object. -/
def objectSlots (names : List String) (depth : Nat) (ms : List (Option String × Document)) :
    Option (List Slot) :=
  if ms.any (·.1.isNone) then none else names.mapM (slotNamed depth ms)

/-- The fields of an array. There may be `more` items than there are fields, or not. -/
def arraySlots (more : Bool) (depth : Nat) : List String → List Document → Option (List Slot)
  | [], [] => some []
  | [], _ :: _ => if more then some [] else none
  | _ :: names, [] => (arraySlots more depth names []).map (.noItem :: ·)
  | _ :: names, doc :: docs => (arraySlots more depth names docs).map (.found depth doc :: ·)

/-- A record with the given field names, as an object or as an array, which may have `more` items
than there are fields, or not. -/
def recordWith (more : Bool) (names : List String) (build : List Slot → Option α) : Decoder α
  | depth + 1, .object ms => (objectSlots names depth ms).bind build
  | depth + 1, .array items => (arraySlots more depth names items).bind build
  | _, _ => none

/-- A record with the given field names, as an object or as an array of no more than the fields. -/
def record (names : List String) (build : List Slot → Option α) : Decoder α :=
  recordWith false names build

/-- Reads a whole text. What is well formed but not of the wanted shape is refused at the end. -/
def ofText (d : Decoder α) (s : String) : Except Error α :=
  match Document.ofText s with
  | .error e => .error e
  | .ok doc =>
    match d maxDepth doc with
    | some a => .ok a
    | none => .error (Document.position s.toList s.length)

end Decoder

/-- Reads a text as a value. -/
def ofText (s : String) : Except Error Json := Decoder.value.ofText s

end FixGrader.Json
