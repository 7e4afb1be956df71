import FixGrader.Json.Decoder
import FixGrader.World
/-!
# Challenges and submissions

A challenge names the files that are to be mended. A submission is what is checked: the text of all
files, one after the other. A file that cannot be read counts as empty.
-/
namespace FixGrader

/-- A file of a challenge, with the text that it has at first. -/
structure ChallengeFile where
  path : Path
  template : String
  deriving DecidableEq, Repr, Inhabited

structure Challenge where
  id : String
  category : String
  title : String
  description : String
  files : List ChallengeFile
  hints : List String
  objectives : List String
  attacks : List String
  deriving DecidableEq, Repr, Inhabited

structure Submission where
  challengeId : String
  category : String
  files : List Path
  /-- The texts of the files, with a line break between them. -/
  content : String
  /-- The directory that the tools work in, where it is known. -/
  workspace : Option Path
  deriving DecidableEq, Repr, Inhabited

open Json

namespace ChallengeFile

def decoder : Decoder ChallengeFile :=
  .record ["path", "template"] fun
    | [path, template] => do
      return { path := ⟨← path.required .string⟩, template := ← template.orElse "" .string }
    | _ => none

def toJson (f : ChallengeFile) : Json :=
  .object [("path", .string f.path.text), ("template", .string f.template)]

end ChallengeFile

namespace Challenge

def decoder : Decoder Challenge :=
  .record ["id", "category", "title", "description", "files", "hints", "learning_objectives",
      "attack_vectors"] fun
    | [id, category, title, description, files, hints, objectives, attacks] => do
      return {
        id := ← id.required .string
        category := ← category.required .string
        title := ← title.required .string
        description := ← description.orElse "" .string
        files := ← files.orElse [] (.list ChallengeFile.decoder)
        hints := ← hints.orElse [] (.list .string)
        objectives := ← objectives.orElse [] (.list .string)
        attacks := ← attacks.orElse [] (.list .string) }
    | _ => none

def toJson (c : Challenge) : Json :=
  .object [("id", .string c.id), ("category", .string c.category), ("title", .string c.title),
    ("description", .string c.description), ("files", .array (c.files.map ChallengeFile.toJson)),
    ("hints", ofStrings c.hints), ("learning_objectives", ofStrings c.objectives),
    ("attack_vectors", ofStrings c.attacks)]

/-- The places of the files in a workspace. -/
def filePaths (c : Challenge) (workspace : Path) : List Path :=
  c.files.map fun f => workspace.join f.path

end Challenge

namespace Submission

/-- The text of a file; empty if it cannot be read. -/
def textOf (disk : Disk) (path : Path) : String :=
  match disk.readText path with
  | .ok text => text
  | .error _ => ""

def contentOf (disk : Disk) (files : List Path) : String :=
  String.intercalate "\n" (files.map (textOf disk))

/-- A submission of the files as they are. -/
def ofFiles (disk : Disk) (challengeId category : String) (files : List Path) : Submission :=
  ⟨challengeId, category, files, contentOf disk files, none⟩

/-- The submission of a challenge's files in a workspace. -/
def ofChallenge (disk : Disk) (c : Challenge) (workspace : Path) : Submission :=
  { ofFiles disk c.id c.category (c.filePaths workspace) with workspace := some workspace }

/-- Notes a file that cannot be read. -/
def noteUnreadable (path : Path) : Run Unit := do
  match (← Run.disk).readText path with
  | .ok _ => return
  | .error e =>
    Run.warn Log.Target.submission "submitted file unreadable, treating as empty"
      [("path", .shown path.text), ("error", .shown e.message)]

/-- Reads the submitted files, with a note on each one that cannot be read. -/
def read (challengeId category : String) (files : List Path) : Run Submission := do
  files.forM noteUnreadable
  return ofFiles (← Run.disk) challengeId category files

/-- Reads the files of a challenge in a workspace. -/
def readChallenge (c : Challenge) (workspace : Path) : Run Submission := do
  let s ← read c.id c.category (c.filePaths workspace)
  return { s with workspace := some workspace }

end Submission

end FixGrader
