import FixGrader.Challenge.Session
import FixGrader.CommandLine.Arguments
import FixGrader.Log.Filter
import FixGrader.SettingsFile
/-!
# Carrying out commands

A command gets the files, a runner for the tools, the time, and the wish for a log; it gives an exit
status, what it writes to its two streams, and the files afterwards. The status is zero if the
solution passes, one if it does not, and two if the command could not be carried out.
-/
namespace FixGrader.CommandLine

/-- What a command is carried out with. -/
structure Environment where
  /-- The wish for a log, where there is one. -/
  log : Option String
  now : Timestamp
  /-- The identifier for a new attempt. -/
  attemptId : String
  runner : Runner

structure Result where
  exitStatus : Nat
  stdout : String
  stderr : String
  disk : Disk
  /-- Whether the command ends at all. It does not if a tool that it calls never does; then the rest
  is of no account. -/
  ends : Bool
  deriving Inhabited

/-- The filter for the log: the one that is wished for, if it can be read, else warnings alone, or
everything of use for finding errors. -/
def filterFor (log : Option String) (verbose : Bool) : Log.Filter :=
  (log.bind Log.Filter.ofText?).getD (.upTo (if verbose then .debug else .warn))

/-- The lines of the log. -/
def logText (env : Environment) (filter : Log.Filter) (events : List Log.Event) : String :=
  String.join ((events.filter filter.shows).map (·.line env.now))

/-- The absolute form of a path; the path itself where it has none. -/
def absolute (disk : Disk) (p : Path) : Path :=
  (p.absolute? ⟨"/" ++ String.intercalate "/" disk.cwd⟩).getD p

def loadSettings (disk : Disk) (config : Option Path) : Except Failure Settings :=
  SettingsFile.load disk (config.getD ⟨SettingsFile.name⟩)

/-- The format for a word; a word that is not known gives the format for reading, with a warning. -/
def formatFor (word : String) : Report.Format × String :=
  match Report.Format.ofWord? word with
  | some format => (format, "")
  | none => (.console, "Warning: unknown format '" ++ word ++ "', using console\n")

def failureText (e : Failure) : String := "Error: " ++ e.message ++ "\n"

/-- The session of a check that is carried out once. -/
def sessionFor (env : Environment) (disk : Disk) (a : CheckArguments) : Except Failure Session :=
  Session.start? env.attemptId env.now a.challenge a.category (a.workspace.map (absolute disk))
    (a.files.map (absolute disk))

/-- Writes a report to where it is wanted. -/
def deliver (disk : Disk) (output : Option Path) (report : String) :
    Except FileError (String × Disk) :=
  match output with
  | none => .ok (report, disk)
  | some path => (disk.writeText path report).map fun disk => ("", disk)

/-- The result of a command that could not be carried out. -/
def failed (e : Failure) (log : String) (disk : Disk) (ends : Bool) : Result :=
  ⟨e.exitStatus, "", log ++ failureText e, disk, ends⟩

/-- Checks a solution. -/
def check (env : Environment) (filter : Log.Filter) (a : CheckArguments) (disk : Disk) : Result :=
  let (format, warning) := formatFor a.format
  match loadSettings disk a.config with
  | .error e => failed e warning disk true
  | .ok settings =>
    match sessionFor env disk a with
    | .error e => failed e warning disk true
    | .ok session =>
      let ((outcome, _), w) :=
        (session.checkWith settings env.runner env.now).run (.ofDisk disk)
      let log := warning ++ logText env filter w.events
      match outcome with
      | .error e => failed e log w.disk w.ends
      | .ok outcome =>
        match deliver w.disk a.output (outcome.render format) with
        | .error e => failed (.file e) log w.disk w.ends
        | .ok (stdout, disk) => ⟨if outcome.passed then 0 else 1, stdout, log, disk, w.ends⟩

/-- A text with blanks behind it up to a width. -/
def padRight (width : Nat) (s : String) : String :=
  s ++ String.ofList (List.replicate (width - s.length) ' ')

/-- One row of the table of rule sets. -/
def row (category name vulnerable secure aliases : String) : String :=
  padRight 16 category ++ " " ++ padRight 28 name ++ " " ++ padRight 6 vulnerable ++ " " ++
    padRight 6 secure ++ " " ++ aliases ++ "\n"

def summaryRow (s : RuleSet.Summary) : String :=
  row s.category s.displayName (toString s.vulnerable.length) (toString s.secure.length)
    (if s.aliases.isEmpty then "-" else String.intercalate ", " s.aliases)

/-- The table of rule sets. -/
def table (r : Registry) : String :=
  row "CATEGORY" "NAME" "VULN" "SECURE" "ALIASES" ++
    String.ofList (List.replicate 80 '-') ++ "\n" ++ String.join (r.list.map summaryRow)

def unresolvedLine (r : Registry) (category : String) : String :=
  category ++ ": no rule set or alias, falls back to '" ++ r.defaultCategory ++ "'\n"

/-- Looks categories up: the exit status, and what is said about them. -/
def lookUp (r : Registry) (categories : List String) : Nat × String :=
  match r.unresolved categories with
  | [] => (0, "All " ++ toString categories.length ++ " categories resolve to a rule set.\n")
  | missing => (1, String.join (missing.map (unresolvedLine r)))

/-- Lists the rule sets, or looks categories up in them. -/
def rules (a : RulesArguments) (disk : Disk) : Result :=
  let registry : Except Failure Registry := do
    let settings ← loadSettings disk a.config
    (Registry.withSettings settings.rules).mapError Failure.ofRuleError
  match registry with
  | .error e => failed e "" disk true
  | .ok r =>
    if !a.check.isEmpty then
      let (status, text) := lookUp r a.check
      ⟨status, text, "", disk, true⟩
    else if a.format = "json" then
      ⟨0, (Json.array (r.list.map RuleSet.Summary.toJson)).pretty ++ "\n", "", disk, true⟩
    else ⟨0, table r, "", disk, true⟩

/-- Writes a settings file to begin with; one that is there is only replaced by force. -/
def writeStarter (force : Bool) (disk : Disk) : Result :=
  let path : Path := ⟨SettingsFile.name⟩
  if disk.exists? path && !force then
    ⟨1, "", SettingsFile.name ++ " already exists. Use --force to overwrite.\n", disk, true⟩
  else
    match disk.writeText path SettingsFile.starter with
    | .error e => failed (.file e) "" disk true
    | .ok disk => ⟨0, "Created " ++ SettingsFile.name ++ "\n", "", disk, true⟩

def run (env : Environment) (verbose : Bool) (command : Command) (disk : Disk) : Result :=
  match command with
  | .check a => check env (filterFor env.log verbose) a disk
  | .rules a => rules a disk
  | .init force => writeStarter force disk

end FixGrader.CommandLine
