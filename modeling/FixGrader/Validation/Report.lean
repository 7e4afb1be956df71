import FixGrader.Challenge.QuickCheck
import FixGrader.Validation.Result
/-!
# Reports

A result as text: a summary, the checks, the issues from the most to the least severe, and the
recommendations. A report is for reading or, as JSON, for other programs.
-/
namespace FixGrader.Report

/-- How a report is written. -/
inductive Format where
  | console
  | json
  deriving DecidableEq, Repr, Inhabited

namespace Format

/-- The format that a word stands for, without regard to case. -/
def ofWord? (word : String) : Option Format :=
  let word := Text.lower word
  if word = "console" ∨ word = "text" then some console
  else if word = "json" then some json
  else none

def key : Format → String
  | console => "console"
  | json => "json"

end Format

def header (v : Validation) : String :=
  "\n  " ++ v.challengeId ++ " (" ++ v.category ++ ")\n  Score: " ++ toString v.score ++ "/" ++
    toString v.maxScore ++ "  Grade: " ++ v.grade.text ++ "  Status: " ++
    (if v.passed then "PASSED" else "FAILED") ++ "\n"

/-- The line that says that a result is not complete. -/
def partialNote (v : Validation) : String :=
  if v.isPartial then "  Note: some checks could only be partially performed.\n" else ""

def checkTag (c : Check) : String :=
  if c.isPartial then "[PARTIAL]" else if c.passed then "[PASS]   " else "[FAIL]   "

def checkLine (c : Check) : String :=
  "  " ++ checkTag c ++ " " ++ c.name ++ ": " ++ c.message ++ "\n"

def checks (v : Validation) : String := "\n  Checks:\n" ++ String.join (v.checks.map checkLine)

def severityTag : Severity → String
  | .high => "[HIGH]  "
  | .medium => "[MEDIUM]"
  | .low => "[LOW]   "

/-- Where an issue is. -/
def location : Issue.Detail → String
  | .vulnerability pattern _ line =>
    match line with
    | some line => "line " ++ toString line ++ " (pattern " ++ pattern ++ ")"
    | none => "pattern " ++ pattern
  | .lint rule file line =>
    let file := (file.map Path.text).getD "-"
    let line := (line.map fun l => ":" ++ toString l).getD ""
    file ++ line ++ " (" ++ rule ++ ")"
  | .dependency package _ => "package " ++ package

/-- An issue, and where it is. -/
def issueBlock (i : Issue) : String :=
  "  " ++ severityTag i.severity ++ " " ++ i.kind.text ++ " " ++ i.message ++ "\n           at " ++
    location i.detail ++ "\n"

/-- The issues from the most to the least severe, otherwise in their order. -/
def bySeverity (issues : List Issue) : List Issue :=
  issues.mergeSort fun a b => decide (b.severity.rank ≤ a.severity.rank)

def issues (v : Validation) : String :=
  if v.issues.isEmpty then ""
  else
    "\n  " ++ toString v.issues.length ++ " security issue(s):\n" ++
      String.join ((bySeverity v.issues).map issueBlock)

def recommendations (v : Validation) : String :=
  if v.recommendations.isEmpty then ""
  else
    "\n  Recommendations:\n" ++
      String.join (v.recommendations.map fun r => "  - " ++ r ++ "\n")

/-- The report for reading. -/
def console (v : Validation) : String :=
  header v ++ partialNote v ++ checks v ++ issues v ++ recommendations v ++ "\n"

def render (v : Validation) : Format → String
  | .console => console v
  | .json => v.toJson.pretty

/-- The report of a quick check. -/
def renderVerdict (v : QuickCheck.Verdict) : Format → String
  | .console =>
    "\n  Basic check: " ++ (if v.passed then "PASSED" else "NOT VERIFIED") ++ "\n  " ++ v.message ++
      "\n\n"
  | .json => v.toJson.pretty

end FixGrader.Report
