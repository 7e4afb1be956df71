import FixGrader.Path
import FixGrader.Text.Utf8
/-!
# Files

A file system as a value: files and directories under their absolute places, and a working
directory. Reading and writing name a file by a path and fail as an operating system does. There are
no symbolic or hard links: each file has one place, so that what is written by one path is seen
under another one only if both lead to the same place.
-/
namespace FixGrader

/-- Why a file operation fails. -/
inductive FileError where
  | notFound
  | permissionDenied
  | notADirectory
  | isADirectory
  | nameTooLong
  | zeroInName
  | notUtf8
  | other (text : String)
  deriving DecidableEq, Repr, Inhabited

def FileError.message : FileError → String
  | notFound => "No such file or directory (os error 2)"
  | permissionDenied => "Permission denied (os error 13)"
  | notADirectory => "Not a directory (os error 20)"
  | isADirectory => "Is a directory (os error 21)"
  | nameTooLong => "File name too long (os error 36)"
  | zeroInName => "file name contained an unexpected NUL byte"
  | notUtf8 => "stream did not contain valid UTF-8"
  | other text => text

-- the decision of the core library, whatever else is in scope
attribute [local instance (2000)] ByteArray.instDecidableEq

/-- What stands at a place: a file with its permissions, or a directory in which entries may or may
not be made. -/
inductive Entry where
  | file (bytes : ByteArray) (readable writable executable : Bool)
  | directory (writable : Bool)
  deriving DecidableEq, Inhabited

/-- A place: the names of the directories from the root on, and the name of the entry. -/
abbrev Place := List String

structure Disk where
  entries : List (Place × Entry)
  cwd : Place
  deriving Inhabited

namespace Disk

/-- The entry at a place; the root is always a directory. -/
def entry? (d : Disk) (place : Place) : Option Entry :=
  if place = [] then some (.directory true) else (d.entries.find? (·.1 = place)).map (·.2)

/-- Puts an entry at a place, in the stead of one that is there. -/
def setEntry (d : Disk) (place : Place) (e : Entry) : Disk :=
  let rec put : List (Place × Entry) → List (Place × Entry)
    | [] => [(place, e)]
    | (p, f) :: rest => if p = place then (p, e) :: rest else (p, f) :: put rest
  { d with entries := put d.entries }

/-- Takes away a place and all that lies under it. -/
def eraseUnder (d : Disk) (place : Place) : Disk :=
  { d with entries := d.entries.filter fun (p, _) => !place.isPrefixOf p }

/-- Goes on from a directory by one part of a path. -/
def step (d : Disk) (place : Place) (segment : List Char) : Except FileError Place :=
  match d.entry? place with
  | none => .error .notFound
  | some (.file ..) => .error .notADirectory
  | some (.directory _) =>
    if segment = [] ∨ segment = ['.'] then .ok place
    else if segment = ['.', '.'] then .ok place.dropLast
    else if 255 < (String.ofList segment).utf8ByteSize then .error .nameTooLong
    else .ok (place ++ [String.ofList segment])

/-- The place that a path leads to; only its last part need not exist. -/
def locate (d : Disk) (p : Path) : Except FileError Place :=
  if p.text.toList.contains '\x00' then .error .zeroInName
  else if p.text.isEmpty then .error .notFound
  else
    let start := if p.isAbsolute then [] else d.cwd
    let parts := if p.isAbsolute then p.segments.tail else p.segments
    parts.foldlM d.step start

/-- Whether a path names something that exists. -/
def exists? (d : Disk) (p : Path) : Bool :=
  match d.locate p with
  | .ok place => (d.entry? place).isSome
  | .error _ => false

def readBytes (d : Disk) (p : Path) : Except FileError ByteArray := do
  match d.entry? (← d.locate p) with
  | none => throw .notFound
  | some (.directory _) => throw .isADirectory
  | some (.file bytes readable _ _) => if readable then return bytes else throw .permissionDenied

/-- The text of a file. -/
def readText (d : Disk) (p : Path) : Except FileError String := do
  match Text.ofBytes? (← d.readBytes p) with
  | some text => return text
  | none => throw .notUtf8

/-- The place of a file that is about to be made: a path that ends in a separator names no file. -/
def locateNew (d : Disk) (p : Path) : Except FileError Place :=
  match d.locate p with
  | .error .notFound =>
    let kept := (p.text.toList.reverse.dropWhile (· = '/')).reverse
    if kept.length < p.text.length ∧ (d.locate ⟨String.ofList kept⟩).toBool then
      .error .isADirectory
    else .error .notFound
  | found => found

/-- Writes a file, which is made when it does not exist. -/
def writeBytes (d : Disk) (p : Path) (bytes : ByteArray) : Except FileError Disk := do
  let place ← d.locateNew p
  match d.entry? place with
  | some (.directory _) => throw .isADirectory
  | some (.file _ readable writable executable) =>
    if writable then return d.setEntry place (.file bytes readable true executable)
    else throw .permissionDenied
  | none =>
    match d.entry? place.dropLast with
    | some (.directory true) => return d.setEntry place (.file bytes true true false)
    | _ => throw .permissionDenied

def writeText (d : Disk) (p : Path) (text : String) : Except FileError Disk :=
  d.writeBytes p (Text.toBytes text)

/-- Makes a directory and those that it lies in. -/
def makeDirectories (d : Disk) (place : Place) : Disk :=
  (List.range (place.length + 1)).foldl (fun d n =>
    if (d.entry? (place.take n)).isSome then d
    else d.setEntry (place.take n) (.directory true)) d

/-- The files that lie under a place, by the names that lead from it to them. -/
def filesUnder (d : Disk) (place : Place) : List (Place × ByteArray) :=
  d.entries.filterMap fun (p, e) =>
    match e with
    | .file bytes _ _ _ => if place.isPrefixOf p then some (p.drop place.length, bytes) else none
    | .directory _ => none

/-- A working directory that is empty but for itself. -/
def empty (cwd : Place) : Disk := ({ entries := [], cwd } : Disk).makeDirectories cwd

end Disk

end FixGrader
