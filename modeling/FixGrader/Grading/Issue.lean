import FixGrader.Json.Decoder
import FixGrader.Path
import FixGrader.Text.Case
/-!
# Findings

An issue is one finding of one stage: a vulnerable idiom in the source, a diagnostic of the linter,
or a dependency with known vulnerabilities. In a report it is one flat object whose `type` says
which of the three it is.
-/
namespace FixGrader

inductive Severity where
  | low
  | medium
  | high
  deriving DecidableEq, Repr, Inhabited

namespace Severity

def text : Severity → String
  | low => "low"
  | medium => "medium"
  | high => "high"

def ofText? (s : String) : Option Severity := [low, medium, high].find? (·.text = s)

def rank : Severity → Nat
  | low => 0
  | medium => 1
  | high => 2

/-- The level that a tool's word stands for, without regard to case. -/
def ofWord? (word : String) : Option Severity :=
  let word := Text.lower word
  if ["info", "low"].contains word then some low
  else if ["medium", "moderate", "med", "warning", "warn"].contains word then some medium
  else if ["high", "critical", "crit", "error"].contains word then some high
  else none

end Severity

/-- What only one of the stages knows about a finding. -/
inductive Issue.Detail where
  | vulnerability (pattern : String) (matched : List String) (line : Option Nat)
  | lint (rule : String) (file : Option Path) (line : Option Nat)
  | dependency (package : String) (title : Option String)
  deriving DecidableEq, Repr, Inhabited

structure Issue where
  severity : Severity
  message : String
  detail : Issue.Detail
  deriving DecidableEq, Repr, Inhabited

namespace Issue

inductive Kind where
  | vulnerability
  | lint
  | dependency
  deriving DecidableEq, Repr, Inhabited

def Kind.text : Kind → String
  | vulnerability => "vulnerability"
  | lint => "static-analysis"
  | dependency => "dependency"

def Kind.all : List Kind := [vulnerability, lint, dependency]

def Kind.ofText? (s : String) : Option Kind := Kind.all.find? (·.text = s)

def Detail.kind : Detail → Kind
  | vulnerability .. => .vulnerability
  | lint .. => .lint
  | dependency .. => .dependency

def kind (i : Issue) : Kind := i.detail.kind

/-- The line of a finding, where the stage knows one. -/
def line (i : Issue) : Option Nat :=
  match i.detail with
  | .vulnerability _ _ line => line
  | .lint _ _ line => line
  | .dependency .. => none

open Json

def Detail.members : Detail → List (String × Json)
  | .vulnerability pattern matched line =>
    [("pattern", .string pattern), ("matches", ofStrings matched), ("line", ofOption ofNat line)]
  | .lint rule file line =>
    [("rule_id", .string rule), ("file", ofOption (fun f => .string f.text) file),
      ("line", ofOption ofNat line)]
  | .dependency package title =>
    [("package", .string package), ("title", ofOption .string title)]

def toJson (i : Issue) : Json :=
  .object ([("severity", .string i.severity.text), ("message", .string i.message),
    ("type", .string i.kind.text)] ++ i.detail.members)

def severityDecoder : Decoder Severity := .keyword Severity.ofText?

/-- The kind of an issue, by its name or by its number. -/
def kindDecoder : Decoder Kind
  | _, .string (some s) => Kind.ofText? s
  | _, .number (some (.int i)) => if 0 ≤ i then Kind.all[i.toNat]? else none
  | _, _ => none

def pathDecoder : Decoder Path := Decoder.string.map Path.mk

def lineDecoder : Decoder Nat := .natural 64

def detailFields : Kind → List String
  | .vulnerability => ["pattern", "matches", "line"]
  | .lint => ["rule_id", "file", "line"]
  | .dependency => ["package", "title"]

def detailOfSlots : Kind → List Decoder.Slot → Option Detail
  | .vulnerability, [pattern, matched, line] => do
    return .vulnerability (← pattern.required .string) (← matched.required (.list .string))
      (← line.nullable lineDecoder)
  | .lint, [rule, file, line] => do
    return .lint (← rule.required .string) (← file.nullable pathDecoder)
      (← line.nullable lineDecoder)
  | .dependency, [package, title] => do
    return .dependency (← package.required .string) (← title.nullable .string)
  | _, _ => none

/-- Whether every member but the common ones stands for a value. -/
def hasValues (depth : Nat) (ms : List (Option String × Document)) : Bool :=
  ms.all fun (key, doc) =>
    key = some "severity" || key = some "message" || (valueAt depth doc).isSome

/-- Reads an issue off an object. -/
def decoder : Decoder Issue
  | depth + 1, .object ms => do
    guard (hasValues depth ms)
    match ← Decoder.objectSlots ["severity", "message", "type"] depth ms with
    | [severity, message, type] =>
      let severity ← severity.required severityDecoder
      let message ← message.required .string
      let kind ← type.required kindDecoder
      let slots ← Decoder.objectSlots (detailFields kind) depth ms
      return ⟨severity, message, ← detailOfSlots kind slots⟩
    | _ => none
  | _, _ => none

end Issue

end FixGrader
