import Mathlib.Data.List.Forall2
import FixGrader.Proofs.Path.Place
import FixGrader.Tool.Lint
/-!
# The files that the linter is called on

The linter is called in the root of the workspace, with the submitted paths as they were given. An
absolute path names its file from everywhere. A relative one was meant from the current directory: it
reaches the linter as itself only if the root is no other place as far as the path does not climb out
of it, and if the linter does not take it for an option.
-/
namespace FixGrader

def Invocation.directory (i : Invocation) (cwd : Path) : Path := (i.cwd.map cwd.join).getD cwd

/-- An argument of a call made in `cwd` that stands for a file: it cannot be taken for an option, and
where the call runs it names what the path of the file names in `cwd`. -/
structure Invocation.StandsFor (i : Invocation) (cwd file : Path) (argument : String) : Prop where
  plain : argument.toList.head? ≠ some '-'
  same : ((i.directory cwd).join ⟨argument⟩).place = (cwd.join file).place

theorem Workspace.resolve_filled (root : Option Path) {files : List Path} (filled : files ≠ []) :
    ∃ ws, resolve root files = some ws ∧ ws.files = files := by
  obtain ⟨file, rest, rfl⟩ := List.exists_cons_of_ne_nil filled
  cases root with
  | none => exact ⟨_, rfl, rfl⟩
  | some root => exact ⟨⟨root, file :: rest⟩, rfl, rfl⟩

namespace Lint

def options : List String :=
  ["--no-install", "eslint", "--no-eslintrc", "-c", configName, "--format", "json"]

theorem invocation_args (settings : ToolSettings) (ws : Workspace) :
    (invocation settings ws).args = options ++ ws.files.map Path.text := rfl

theorem head_of_absolute {p : Path} (absolute : p.isAbsolute = true) :
    p.text.toList.head? = some '/' := by
  simpa [Path.isAbsolute] using absolute

/-- When the path of a file, as an argument, stands for the file. -/
theorem standsFor_iff (settings : ToolSettings) (ws : Workspace) (cwd file : Path) :
    (invocation settings ws).StandsFor cwd file file.text ↔
      file.isAbsolute = true ∨
        file.text.toList.head? ≠ some '-' ∧
          (cwd.join ws.root).place.rdrop file.climb = cwd.place.rdrop file.climb := by
  have places : ((cwd.join ws.root).join file).place = (cwd.join file).place ↔
      file.isAbsolute = true ∨
        (cwd.join ws.root).place.rdrop file.climb = cwd.place.rdrop file.climb := by
    rw [Path.place, Path.place, Path.placeFrom_join (cwd.join ws.root) file,
      Path.placeFrom_join cwd file]
    exact Path.placeFrom_eq_iff file _ _
  constructor
  · rintro ⟨plain, same⟩
    rcases places.mp same with absolute | alike
    · exact Or.inl absolute
    · exact Or.inr ⟨plain, alike⟩
  · rintro (absolute | ⟨plain, alike⟩)
    · refine ⟨?_, places.mpr (Or.inl absolute)⟩
      rw [head_of_absolute absolute]
      decide
    · exact ⟨plain, places.mpr (Or.inr alike)⟩

/-- Each file has one argument. It stands for the file if the path is absolute; a relative path has
to begin otherwise than an option, and the root of the workspace and the current directory must be
the same place but for the levels that the path climbs. -/
theorem fileArguments_iff (settings : ToolSettings) (cwd : Path) (root : Option Path)
    (files : List Path) (filled : files ≠ []) :
    ∃ ws arguments, Workspace.resolve root files = some ws ∧
      (invocation settings ws).args = options ++ arguments ∧
      List.Forall₂ (fun file argument => (invocation settings ws).StandsFor cwd file argument ↔
        file.isAbsolute = true ∨
          file.text.toList.head? ≠ some '-' ∧
            (cwd.join ws.root).place.rdrop file.climb = cwd.place.rdrop file.climb)
        files arguments := by
  obtain ⟨ws, resolved, same⟩ := Workspace.resolve_filled root filled
  refine ⟨ws, files.map Path.text, resolved, ?_, ?_⟩
  · rw [invocation_args, same]
  · rw [List.forall₂_map_right_iff, List.forall₂_same]
    exact fun file _ => standsFor_iff settings ws cwd file

/-- The root lies beside the current directory: a path that climbs out of both reaches its file, one
that does not climb misses it. -/
theorem fileArguments_beside : ∃ ws,
    Workspace.resolve (some ⟨"../w"⟩) [⟨"../shared/db.js"⟩, ⟨"src/login.js"⟩] = some ws ∧
      (invocation .standard ws).StandsFor ⟨"/home/u"⟩ ⟨"../shared/db.js"⟩ "../shared/db.js" ∧
      ¬ (invocation .standard ws).StandsFor ⟨"/home/u"⟩ ⟨"src/login.js"⟩ "src/login.js" := by
  obtain ⟨ws, arguments, resolved, args, each⟩ := fileArguments_iff .standard ⟨"/home/u"⟩
    (some ⟨"../w"⟩) [⟨"../shared/db.js"⟩, ⟨"src/login.js"⟩] (by decide)
  cases resolved
  have same : arguments = ["../shared/db.js", "src/login.js"] := List.append_cancel_left args.symm
  subst same
  obtain ⟨climbing, staying, -⟩ := (List.forall₂_cons.mp each).imp id List.forall₂_cons.mp
  refine ⟨_, rfl, climbing.mpr (by decide), fun reaches => ?_⟩
  exact absurd (staying.mp reaches) (by decide)

/-- The root that is found for a relative path is the directory of the file, from where the path leads
one directory too deep. -/
theorem fileArguments_astray : ∃ ws arguments,
    Workspace.resolve none [⟨"./sqli-01/login.js"⟩] = some ws ∧
      (invocation .standard ws).args = options ++ arguments ∧
      ¬ List.Forall₂ ((invocation .standard ws).StandsFor ⟨"/home/u"⟩)
        [⟨"./sqli-01/login.js"⟩] arguments := by
  refine ⟨⟨⟨"./sqli-01"⟩, [⟨"./sqli-01/login.js"⟩]⟩, ["./sqli-01/login.js"], by decide, rfl, ?_⟩
  intro reach
  have deeper : ["home", "u", "sqli-01", "sqli-01", "login.js"] = ["home", "u", "sqli-01", "login.js"] :=
    (List.forall₂_cons.mp reach).1.same
  exact absurd deeper (by decide)

end Lint

end FixGrader
