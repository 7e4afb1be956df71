import FixGrader.Disk
import FixGrader.Json.Decoder
import FixGrader.Text.Case
/-!
# Package manifests

The manifest of a workspace is the file that lists its dependencies: those that it needs to run,
and those that are only used to work on it. A manifest is made or completed without losing any part
of one that is there.
-/
namespace FixGrader.Manifest

open Json

def fileName : String := "package.json"

def developmentKey : String := "devDependencies"

/-- What the linter needs, with the versions that it works with. -/
def linterPackages : List (String × String) :=
  [("eslint", "^8.57.0"), ("eslint-plugin-security", "^1.7.1")]

/-- Adds the packages that are missing. -/
def addPackages (packages : List (String × String)) (dependencies : List (String × Json)) :
    List (String × Json) :=
  packages.foldl (fun found (name, version) =>
    if (find? name found).isSome then found else found ++ [(name, .string version)]) dependencies

/-- The dependencies of a manifest that are only used to work on it; none if the manifest has
something else in their place. -/
def development? (members : List (String × Json)) : Option (List (String × Json)) :=
  match find? developmentKey members with
  | none => some []
  | some value => value.members?

/-- Whether a package that the linter needs is missing. -/
def lacksLinter (dependencies : List (String × Json)) : Bool :=
  linterPackages.any fun (name, _) => (find? name dependencies).isNone

/-- The manifest with the packages that the linter needs. -/
def withLinter (members : List (String × Json)) (dependencies : List (String × Json)) :
    List (String × Json) :=
  insert developmentKey (.object (addPackages linterPackages dependencies)) members

def isNameChar (c : Char) : Bool :=
  Text.isAsciiLetter c || Text.isAsciiDigit c || c = '-' || c = '_'

/-- A text without the dashes at its ends. -/
def trimDashes (cs : List Char) : List Char :=
  (((cs.dropWhile (· = '-')).reverse).dropWhile (· = '-')).reverse

/-- The name of a package for a directory: in lower case, and with dashes for what may not be in
a name. -/
def packageName (root : Path) : String :=
  let name :=
    (Text.lower (root.fileName?.getD "")).toList.map fun c => if isNameChar c then c else '-'
  match trimDashes name with
  | [] => "vulnfix-challenge"
  | name => String.ofList name

/-- The manifest of a workspace that has none. -/
def initial (root : Path) : List (String × Json) :=
  [("name", .string (packageName root)), ("version", .string "1.0.0"), ("private", .bool true)]

/-- Whether a manifest names packages that are needed to run. -/
def declaresDependencies (manifest : Json) : Bool :=
  match (manifest.get? "dependencies").bind Json.members? with
  | some members => !members.isEmpty
  | none => false

end FixGrader.Manifest
