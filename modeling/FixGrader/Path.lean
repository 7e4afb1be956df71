/-!
# Paths

A path is kept as it was written, and read as a sequence of components: repeated separators and
inner dots do not count.
-/
namespace FixGrader

structure Path where
  text : String
  deriving DecidableEq, Repr, Inhabited

namespace Path

inductive Component where
  | root
  /-- A dot at the start of a relative path. -/
  | here
  | up
  | name (text : String)
  deriving DecidableEq, Repr, Inhabited

def Component.text : Component → String
  | root => "/"
  | here => "."
  | up => ".."
  | name s => s

/-- The parts of a text between its slashes, empty ones included; at least one. -/
def splitSlashes : List Char → List (List Char)
  | [] => [[]]
  | c :: cs =>
    if c = '/' then [] :: splitSlashes cs
    else
      match splitSlashes cs with
      | part :: parts => (c :: part) :: parts
      | [] => [[c]]

/-- The parts of the text between slashes. -/
def segments (p : Path) : List (List Char) := splitSlashes p.text.toList

def isAbsolute (p : Path) : Bool := p.text.toList.head? = some '/'

/-- The component of a part after the first one; none for an empty one or a dot. -/
def componentOf (segment : List Char) : Option Component :=
  if segment = [] ∨ segment = ['.'] then none
  else if segment = ['.', '.'] then some .up
  else some (.name (String.ofList segment))

/-- The components of a path. -/
def components (p : Path) : List Component :=
  if p.isAbsolute then .root :: p.segments.filterMap componentOf
  else
    match p.segments with
    | ['.'] :: rest => .here :: rest.filterMap componentOf
    | parts => parts.filterMap componentOf

/-- The path `child` seen from `base`: itself if it is absolute, else behind a separator. -/
def join (base child : Path) : Path :=
  if child.isAbsolute then child
  else if base.text.isEmpty ∨ base.text.toList.getLast? = some '/' then ⟨base.text ++ child.text⟩
  else ⟨base.text ++ "/" ++ child.text⟩

/-- The path with the given components. -/
def ofComponents (cs : List Component) : Path :=
  cs.foldl (fun p c => p.join ⟨c.text⟩) ⟨""⟩

/-- Drops separators and dot parts from the end of a text, which is given backwards. A dot with no
separator before it starts the path and stays. -/
def dropTrailing : List Char → List Char
  | '/' :: cs => if cs = [] then ['/'] else dropTrailing cs
  | '.' :: '/' :: cs => dropTrailing ('/' :: cs)
  | cs => cs

/-- The directory that a path lies in, as a leading part of its text; none when the last component
is the root or there is no component. -/
def parent? (p : Path) : Option Path :=
  match p.components.getLast? with
  | none | some .root => none
  | some _ =>
    let text := (dropTrailing p.text.toList.reverse).dropWhile (· != '/')
    some ⟨String.ofList (dropTrailing text).reverse⟩

/-- The last component, when it is a name. -/
def fileName? (p : Path) : Option String :=
  match p.components.getLast? with
  | some (.name s) => some s
  | _ => none

/-- The absolute form of a path, without dots but with the parts that lead up; none for an empty
path. -/
def absolute? (p cwd : Path) : Option Path :=
  if p.text.isEmpty then none
  else
    let relative := p.components.filter (fun c => c != .here && c != .root)
    let doubled := match p.text.toList with
      | '/' :: '/' :: '/' :: _ => false
      | '/' :: '/' :: _ => true
      | _ => false
    let base : Path :=
      if p.isAbsolute then (if doubled then ⟨"//"⟩ else ⟨"/"⟩) else cwd
    let path := relative.foldl (fun q c => q.join ⟨c.text⟩) base
    some (if p.text.toList.getLast? = some '/' then path.join ⟨""⟩ else path)

/-- The longest sequence of components that both paths begin with, as a path. -/
def commonAncestor (a b : Path) : Path :=
  ofComponents (((a.components.zip b.components).takeWhile fun (x, y) => x = y).map (·.1))

end Path

end FixGrader
