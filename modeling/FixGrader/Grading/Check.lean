import FixGrader.Json.Decoder
/-!
# Checks

What one stage reports about itself: its name, whether it passed, and whether it could only be
carried out in part.
-/
namespace FixGrader

structure Check where
  name : String
  passed : Bool
  /-- The stage ran only in part: a tool was missing, was too slow or gave no usable output. -/
  isPartial : Bool
  message : String
  details : Option Json
  deriving Repr, Inhabited

namespace Check

def pass (name message : String) : Check := ⟨name, true, false, message, none⟩

def fail (name message : String) : Check := ⟨name, false, false, message, none⟩

/-- A stage that ran in part counts as passed: a missing tool is no failed fix. -/
def inPart (name message : String) : Check := ⟨name, true, true, message, none⟩

def withDetails (c : Check) (details : List (String × Json)) : Check :=
  { c with details := some (.object details) }

open Json

def toJson (c : Check) : Json :=
  .object ([("name", .string c.name), ("passed", .bool c.passed), ("partial", .bool c.isPartial),
    ("message", .string c.message)] ++
    match c.details with
    | some d => [("details", d)]
    | none => [])

/-- A value that is not null. -/
def detailsDecoder : Decoder (Option Json) := .nullable .value

def decoder : Decoder Check :=
  .record ["name", "passed", "partial", "message", "details"] fun
    | [name, passed, isPartial, message, details] => do
      return {
        name := ← name.required .string
        passed := ← passed.required .bool
        isPartial := ← isPartial.orElse false .bool
        message := ← message.required .string
        details := ← details.orElse none detailsDecoder }
    | _ => none

end Check

end FixGrader
