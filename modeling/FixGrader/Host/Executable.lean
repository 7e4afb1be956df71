import FixGrader.Disk
import FixGrader.Host.Script
/-!
# Finding programs

What the name of a program leads to: one of the programs that the system brings along, or a file
that a shell or another one of them carries out.
-/
namespace FixGrader.Host

/-- What a program name leads to. -/
inductive Executable where
  /-- A program of the system, with arguments that come before those of the call. -/
  | program (name : String) (args : List ByteText)
  | script (name : ByteText) (text : ByteText)
  deriving DecidableEq, Repr, Inhabited

namespace Executable

/-- The programs that the system has. -/
def systemPrograms : List String := [
  "true", "false", "echo", "cat", "sleep", "sh", "dash", "printf", "test", "[", "wc", "tr",
  "head", "tail", "seq", "basename", "dirname", "ls", "pwd", "env", "touch", "mkdir", "rm"]

/-- The program of the system that an absolute path leads to. -/
def systemProgram? (path : String) : Option String :=
  systemPrograms.find? fun name => path = "/bin/" ++ name || path = "/usr/bin/" ++ name

/-- The words of a line. -/
def words (line : List Char) : List (List Char) :=
  (line.foldr (fun c ws =>
    if c = ' ' || c = '\t' then [] :: ws
    else
      match ws with
      | w :: ws => (c :: w) :: ws
      | [] => [[c]]) [[]]).filter (· != [])

/-- The program that carries out a file, by its first line. -/
def ofText (path : ByteText) (text : ByteText) : Except FileError Executable :=
  match text with
  | '#' :: '!' :: rest =>
    match words (rest.takeWhile (· != '\n')) with
    | interpreter :: options =>
      let name := match systemProgram? (String.ofList interpreter), options with
        | some "env", [name] => systemPrograms.find? (· = String.ofList name)
        | found, _ => found
      match name with
      | some name =>
        if name = "sh" ∨ name = "dash" then .ok (.script path text)
        else .ok (.program name (options ++ [path]))
      | none => .error .notFound
    | [] => .error (.other "Exec format error (os error 8)")
  | _ => .error (.other "Exec format error (os error 8)")

/-- Finds a program: by a path if its name has a slash, else among those of the system. -/
def find (disk : Disk) (program : String) : Except FileError Executable :=
  if program.toList.contains '\x00' then .error (.other "nul byte found in provided data")
  else if !program.toList.contains '/' then
    match systemPrograms.find? (· = program) with
    | some name => .ok (.program name [])
    | none => .error .notFound
  else
    match systemProgram? program with
    | some name => .ok (.program name [])
    | none => do
      match disk.entry? (← disk.locate ⟨program⟩) with
      | none => throw .notFound
      | some (.directory _) => throw .permissionDenied
      | some (.file bytes _ _ executable) =>
        if executable then ofText (ByteText.ofString program) (ByteText.ofBytes bytes)
        else throw .permissionDenied

end Executable

end FixGrader.Host
