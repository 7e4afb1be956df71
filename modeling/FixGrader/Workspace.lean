import FixGrader.Path
/-!
# Workspaces

The directory in which the tools work, and the submitted files.
-/
namespace FixGrader

structure Workspace where
  root : Path
  files : List Path
  deriving DecidableEq, Repr, Inhabited

namespace Workspace

def here : Path := ⟨"."⟩

/-- The deepest directory that holds all the files; none if there are no files. -/
def ofFiles (files : List Path) : Option Workspace :=
  match files.map fun f => f.parent?.getD here with
  | [] => none
  | first :: rest =>
    let root := rest.foldl Path.commonAncestor first
    some ⟨if root.text.isEmpty then here else root, files⟩

/-- The given root, or else the deepest directory that holds all the files. -/
def resolve (root : Option Path) (files : List Path) : Option Workspace :=
  match root with
  | some root => if files.isEmpty then none else some ⟨root, files⟩
  | none => ofFiles files

end Workspace

end FixGrader
