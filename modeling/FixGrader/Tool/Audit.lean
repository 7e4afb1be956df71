import FixGrader.Grading.Issue
import FixGrader.NameTable
import FixGrader.Settings
import FixGrader.Tool.Invocation
import FixGrader.Workspace
/-!
# The dependency audit

The auditor looks up the dependencies of a workspace in a list of known vulnerabilities. Its report
names each vulnerable package once.
-/
namespace FixGrader.Audit

open Json

/-- A package with known vulnerabilities. -/
structure Package where
  name : String
  severity : Severity
  title : Option String
  deriving DecidableEq, Repr, Inhabited

/-- The call of the auditor. -/
def invocation (settings : ToolSettings) (w : Workspace) : Invocation where
  program := settings.npm
  args := ["audit", "--json", "--omit=dev"]
  cwd := some w.root
  env := []
  timeout := settings.auditSeconds * 1000

/-- What a report says about one package. -/
structure Entry where
  severity : String
  title : Option String
  /-- The vulnerabilities, or the names of the packages that bring them in. -/
  via : List Json
  deriving Repr, Inhabited

/-- What a report says when the audit could not be made. -/
structure Refusal where
  code : Option String
  summary : Option String
  deriving DecidableEq, Repr, Inhabited

structure Report where
  vulnerabilities : NameTable Entry
  refusal : Option Refusal
  deriving Repr, Inhabited

def Entry.decoder : Decoder Entry :=
  .record ["severity", "title", "via"] fun
    | [severity, title, via] => do
      return {
        severity := ← severity.required .string
        title := ← title.orElse none (Decoder.nullable .string)
        via := ← via.orElse [] (.list .value) }
    | _ => none

def Refusal.decoder : Decoder Refusal :=
  .record ["code", "summary"] fun
    | [code, summary] => do
      return {
        code := ← code.orElse none (Decoder.nullable .string)
        summary := ← summary.orElse none (Decoder.nullable .string) }
    | _ => none

/-- The entries under their names; the last one of a repeated name counts. -/
def entriesDecoder : Decoder (NameTable Entry) :=
  (Decoder.members Entry.decoder).map NameTable.ofList

def Report.decoder : Decoder Report :=
  .record ["vulnerabilities", "error"] fun
    | [vulnerabilities, refusal] => do
      return {
        vulnerabilities := ← vulnerabilities.orElse .empty entriesDecoder
        refusal := ← refusal.orElse none (Decoder.nullable Refusal.decoder) }
    | _ => none

def Refusal.message (r : Refusal) : String :=
  r.code.getD "error" ++ ": " ++ r.summary.getD "audit failed"

/-- The title of an entry: its own, or the first one among its vulnerabilities. -/
def Entry.anyTitle (e : Entry) : Option String :=
  e.title.or (e.via.findSome? fun v => (v.get? "title").bind Json.string?)

/-- A severity in a word that is not known counts as a medium one. -/
def Entry.package (name : String) (e : Entry) : Package :=
  ⟨name, (Severity.ofWord? e.severity).getD .medium, e.anyTitle⟩

/-- Reads the report of the auditor. -/
def readReport (stdout : String) : Except Tool.Failure (List Package) :=
  let text := Text.trim stdout
  if text.isEmpty then .error (.malformed "npm audit" "empty output")
  else
    match Report.decoder.ofText text with
    | .error e => .error (.malformed "npm audit" e.message)
    | .ok report =>
      match report.refusal with
      | some refusal => .error (.malformed "npm audit" refusal.message)
      | none => .ok (report.vulnerabilities.entries.map fun (name, e) => e.package name)

def Package.issue (p : Package) : Issue :=
  let message := match p.title with
    | some title => p.name ++ ": " ++ title
    | none => p.name ++ " has known vulnerabilities"
  ⟨p.severity, message, .dependency p.name p.title⟩

end FixGrader.Audit
