import FixGrader.Failure
import FixGrader.Grading.Issue
import FixGrader.Tool.Invocation
import FixGrader.Tool.Manifest
import FixGrader.Workspace
/-!
# The linter

The linter is run on the submitted files with a configuration of its own. The workspace is prepared
for it: the configuration is written unless it is there, and the manifest is made to list what the
linter needs. Its report is a list of diagnostics, of which some are about security.
-/
namespace FixGrader.Lint

open Json

def configName : String := ".eslintrc.security.json"

def configuration : Json :=
  .object [
    ("root", .bool true),
    ("env", .object [("browser", .bool true), ("node", .bool true), ("es2022", .bool true)]),
    ("parserOptions",
      .object [("ecmaVersion", .string "latest"), ("sourceType", .string "module")]),
    ("plugins", ofStrings ["security"]),
    ("extends", ofStrings ["plugin:security/recommended"]),
    ("rules", .object [("no-eval", .string "error"), ("no-implied-eval", .string "error"),
      ("no-new-func", .string "error"), ("no-script-url", .string "error")])]

/-- What preparing a workspace has changed. -/
structure Setup where
  wroteConfig : Bool
  createdManifest : Bool
  addedPackages : Bool
  deriving DecidableEq, Repr, Inhabited

namespace Setup

def text (s : Setup) : String :=
  let word (b : Bool) : String := if b then "true" else "false"
  "SetupReport \x7b wrote_config: " ++ word s.wroteConfig ++ ", created_manifest: " ++
    word s.createdManifest ++ ", added_dev_dependencies: " ++ word s.addedPackages ++ " \x7d"

/-- Why a workspace cannot be prepared. -/
inductive Error where
  | file (error : FileError)
  | manifest (path : Path) (message : String)
  deriving DecidableEq, Repr

def Error.failure : Error → Failure
  | file error => .file error
  | manifest path message => .manifest path.text message

def Error.message (e : Error) : String := e.failure.message

/-- Writes the configuration unless it is there, and tells whether it did. -/
def writeConfig (disk : Disk) (root : Path) : Except FileError (Disk × Bool) :=
  let path := root.join ⟨configName⟩
  if disk.exists? path then .ok (disk, false)
  else (disk.writeText path configuration.pretty).map fun disk => (disk, true)

/-- The members of the manifest of a workspace, and whether it is a new one. -/
def manifestMembers (disk : Disk) (root : Path) : Except Error (List (String × Json) × Bool) :=
  let path := root.join ⟨Manifest.fileName⟩
  if disk.exists? path then
    match disk.readText path with
    | .error e => .error (.file e)
    | .ok text =>
      match Json.ofText text with
      | .error e => .error (.manifest path e.message)
      | .ok (.object members) => .ok (members, false)
      | .ok _ => .error (.manifest path "top-level value is not an object")
  else .ok (Manifest.initial root, true)

/-- Makes the manifest list what the linter needs. -/
def completeManifest (disk : Disk) (root : Path) (wroteConfig : Bool) :
    Except Error Setup × Disk :=
  let path := root.join ⟨Manifest.fileName⟩
  match manifestMembers disk root with
  | .error e => (.error e, disk)
  | .ok (members, created) =>
    match Manifest.development? members with
    | none => (.error (.manifest path "devDependencies is not an object"), disk)
    | some dependencies =>
      let added := Manifest.lacksLinter dependencies
      let setup : Setup := ⟨wroteConfig, created, added⟩
      if created || added then
        let text := (Json.object (Manifest.withLinter members dependencies)).pretty ++ "\n"
        match disk.writeText path text with
        | .error e => (.error (.file e), disk)
        | .ok disk => (.ok setup, disk)
      else (.ok setup, disk)

/-- Prepares a workspace; what was done before an error stays done. -/
def ensure (disk : Disk) (root : Path) : Except Error Setup × Disk :=
  match writeConfig disk root with
  | .error e => (.error (.file e), disk)
  | .ok (disk, wrote) => completeManifest disk root wrote

end Setup

/-- The call of the linter on some files. -/
def invocation (settings : ToolSettings) (w : Workspace) : Invocation where
  program := settings.npx
  args := ["--no-install", "eslint", "--no-eslintrc", "-c", configName, "--format", "json"] ++
    w.files.map Path.text
  cwd := some w.root
  env := [("ESLINT_USE_FLAT_CONFIG", "false")]
  timeout := settings.lintSeconds * 1000

structure Diagnostic where
  file : Path
  line : Option Nat
  rule : Option String
  message : String
  severity : Severity
  deriving DecidableEq, Repr, Inhabited

/-- The rules of the linter itself that are about security. -/
def coreRules : List String := ["no-eval", "no-implied-eval", "no-new-func", "no-script-url"]

/-- Whether a rule is about security: one of the plugin's, or one of the linter itself. -/
def isSecurityRule (rule : String) : Bool :=
  "security/".toList.isPrefixOf rule.toList || coreRules.contains rule

def Diagnostic.isSecurity (d : Diagnostic) : Bool := d.rule.any isSecurityRule

/-- One message of a report. -/
structure Message where
  rule : Option String
  level : Nat
  text : String
  line : Option Nat
  deriving DecidableEq, Repr, Inhabited

structure FileReport where
  file : Path
  messages : List Message
  deriving DecidableEq, Repr, Inhabited

def Message.decoder : Decoder Message :=
  .record ["ruleId", "severity", "message", "line"] fun
    | [rule, level, text, line] => do
      return {
        rule := ← rule.nullable .string
        level := ← level.required (.natural 8)
        text := ← text.required .string
        line := ← line.nullable (.natural 64) }
    | _ => none

def FileReport.decoder : Decoder FileReport :=
  .record ["filePath", "messages"] fun
    | [file, messages] => do
      return {
        file := ⟨← file.required .string⟩
        messages := ← messages.orElse [] (.list Message.decoder) }
    | _ => none

/-- A message of a level of two or more is severe. -/
def FileReport.diagnostics (r : FileReport) : List Diagnostic :=
  r.messages.map fun m =>
    ⟨r.file, m.line, m.rule, m.text, if 2 ≤ m.level then .high else .medium⟩

/-- Reads the report of the linter. -/
def readReport (stdout : String) : Except Tool.Failure (List Diagnostic) :=
  let text := Text.trim stdout
  if text.isEmpty then .error (.malformed "eslint" "empty output")
  else
    match (Decoder.list FileReport.decoder).ofText text with
    | .error e => .error (.malformed "eslint" e.message)
    | .ok reports => .ok (reports.flatMap FileReport.diagnostics)

def Diagnostic.issue (d : Diagnostic) : Issue :=
  ⟨d.severity, d.message, .lint (d.rule.getD "") (some d.file) d.line⟩

end FixGrader.Lint
