import FixGrader.CommandLine.Run
import FixGrader.Host.System
import Std.Time.DateTime.Timestamp
/-!
# The program

Reads the files that a command may touch, carries the command out, writes the files that it has
changed, and ends with its exit status. All decisions are made by the library; programs that the
host does not know count as not installed.
-/
namespace FixGrader.Program

open CommandLine

def name : String := "vulnfix"

def version : String := "0.1.0"

def usage : String := String.intercalate "\n" [
  "Fix vulnerable code snippets and get your fix graded",
  "",
  "Usage: vulnfix [-v] check --challenge <ID> --category <CATEGORY> <FILES>...",
  "               [-w <DIR>] [-c <FILE>] [-f console|json] [-o <FILE>]",
  "       vulnfix [-v] rules [-f table|json] [--check <CATEGORY>...] [-c <FILE>]",
  "       vulnfix [-v] init [--force]",
  ""]

/-- The files that a command may read or write. -/
def pathsOf : Command → List Path
  | .check a =>
    let inWorkspace := (Workspace.resolve a.workspace a.files).toList.flatMap fun w =>
      [w.root.join ⟨Manifest.fileName⟩, w.root.join ⟨Lint.configName⟩]
    a.config.getD ⟨SettingsFile.name⟩ :: a.files ++ a.output.toList ++ inWorkspace
  | .rules a => [a.config.getD ⟨SettingsFile.name⟩]
  | .init _ => [⟨SettingsFile.name⟩]

/-- The place that a path names as it is written. -/
def placeAt (cwd : Place) (p : Path) : Place :=
  p.components.foldl (fun place c =>
    match c with
    | .root => []
    | .here => place
    | .up => place.dropLast
    | .name s => place ++ [s]) cwd

def pathText (place : Place) : String := "/" ++ String.intercalate "/" place

/-- What stands at a place. -/
def readEntry (place : Place) : IO (Option Entry) := do
  try
    return some (.file (← IO.FS.readBinFile (pathText place)) true true false)
  catch e =>
    match e with
    | .inappropriateType .. => return some (.directory true)
    | .permissionDenied .. => return some (.file .empty false false false)
    | _ => return none

/-- Adds what stands at a place, and the directories that it lies in. -/
def addPlace (disk : Disk) (place : Place) : IO Disk := do
  let mut disk := disk
  for n in List.range place.length do
    let part := place.take (n + 1)
    if (disk.entry? part).isNone then
      if let some entry ← readEntry part then
        disk := disk.setEntry part entry
  return disk

/-- The files that a command may touch, as they are. -/
def readDisk (command : Command) : IO Disk := do
  let cwd := placeAt [] ⟨(← IO.currentDir).toString⟩
  (pathsOf command).foldlM (fun disk p => addPlace disk (placeAt cwd p)) (.empty cwd)

/-- Writes the files that are new or have changed. -/
def writeDisk (before after : Disk) : IO Unit := do
  for (place, entry) in after.entries do
    if let .file bytes .. := entry then
      if before.entry? place != some entry then
        IO.FS.writeBinFile (pathText place) bytes

/-- The time now. -/
def now : IO Timestamp := do
  let nanos := (← Std.Time.Timestamp.now).toNanosecondsSinceUnixEpoch.toInt
  let second := nanos / 1000000000
  return ⟨second / 86400, (second % 86400).toNat, (nanos % 1000000000).toNat⟩

/-- A new identifier for an attempt: random but for the four bits of its version and the two of its
variant. -/
def newAttemptId : IO String := do
  let bytes ← IO.getRandomBytes 16
  let marked := bytes.toList.zipIdx.map fun (b, i) =>
    if i = 6 then b % 16 + 64 else if i = 8 then b % 64 + 128 else b
  let digits := marked.flatMap fun b =>
    [Nat.digitChar (b.toNat / 16), Nat.digitChar (b.toNat % 16)]
  let group (start count : Nat) := String.ofList ((digits.drop start).take count)
  return String.intercalate "-" [group 0 8, group 8 4, group 12 4, group 16 4, group 20 12]

/-- Carries a command out. -/
def runCommand (verbose : Bool) (command : Command) : IO UInt32 := do
  let env : Environment := ⟨← IO.getEnv "RUST_LOG", ← now, ← newAttemptId, Host.runner⟩
  let disk ← readDisk command
  let result := CommandLine.run env verbose command disk
  writeDisk disk result.disk
  IO.print result.stdout
  (← IO.getStderr).putStr result.stderr
  return result.exitStatus.toUInt32

end FixGrader.Program

/-- The program: its arguments are those of the call, without its name. -/
def main (args : List String) : IO UInt32 := do
  match FixGrader.CommandLine.Request.ofArguments args with
  | .run verbose command => FixGrader.Program.runCommand verbose command
  | .help =>
    IO.print FixGrader.Program.usage
    return 0
  | .version =>
    IO.println (FixGrader.Program.name ++ " " ++ FixGrader.Program.version)
    return 0
  | .usageError =>
    (← IO.getStderr).putStr FixGrader.Program.usage
    return 2
