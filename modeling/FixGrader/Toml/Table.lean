import FixGrader.Json.Document
/-!
# Tables under construction

While a document is read its tables know how they came about: by a header, by a dotted key, or only
as part of the name of another table. A table may be named once; a value or a finished table is
never added to.
-/
namespace FixGrader.Toml

/-- How a table came about. -/
structure Origin where
  /-- Only the name of a table inside it has been given. -/
  implied : Bool
  /-- It is the beginning of a dotted key. -/
  dotted : Bool
  deriving DecidableEq, Repr, Inhabited

def Origin.header : Origin := ⟨false, false⟩

inductive Item where
  | value (document : Json.Document)
  | table (origin : Origin) (items : List (String × Item))
  /-- Tables that share a name, the last one first. -/
  | tables (items : List (List (String × Item)))
  deriving Repr, Inhabited

/-- A table with its origin. -/
structure Table where
  origin : Origin
  items : List (String × Item)
  deriving Repr, Inhabited

namespace Table

def empty : Table := ⟨.header, []⟩

def get? (key : String) (items : List (String × Item)) : Option Item :=
  (items.find? (·.1 = key)).map (·.2)

/-- Puts an item under a key, in the stead of one that is there. -/
def put (key : String) (item : Item) : List (String × Item) → List (String × Item)
  | [] => [(key, item)]
  | (k, i) :: rest => if k = key then (k, item) :: rest else (k, i) :: put key item rest

def erase (key : String) (items : List (String × Item)) : List (String × Item) :=
  items.filter (·.1 != key)

/-- Changes the table that a path of names leads to; missing tables on the way are made. Of tables
that share a name the last one is meant. A dotted key does not lead into a table with a header. -/
def modify (dotted : Bool) (change : Table → Option Table) : List String → Table → Option Table
  | [], t => change t
  | key :: path, t => do
    match get? key t.items with
    | none =>
      let inner ← modify dotted change path ⟨⟨true, dotted⟩, []⟩
      return { t with items := put key (.table inner.origin inner.items) t.items }
    | some (.value _) => none
    | some (.table origin items) =>
      if dotted && !origin.implied then none
      else
        let inner ← modify dotted change path ⟨origin, items⟩
        return { t with items := put key (.table inner.origin inner.items) t.items }
    | some (.tables []) => none
    | some (.tables (last :: rest)) =>
      let inner ← modify dotted change path ⟨.header, last⟩
      return { t with items := put key (.tables (inner.items :: rest)) t.items }

/-- Adds a value under a dotted key, given as the names before the last one and the last one. -/
def addValue (t : Table) (path : List String) (key : String) (value : Json.Document) :
    Option Table :=
  modify true (fun inner =>
    if inner.origin.dotted = path.isEmpty ∨ (get? key inner.items).isSome then none
    else some { inner with items := inner.items ++ [(key, .value value)] }) path t

/-- Takes a table out of its place, to be filled under its header. -/
def open? (root : Table) (path : List String) (key : String) : Option (Table × Table) := do
  let root ← modify false some path root
  let found ← itemAt path root.items
  match found with
  | none => return (root, empty)
  | some (.table ⟨true, false⟩ items) =>
    let root ← modify false (fun t => some { t with items := erase key t.items }) path root
    return (root, ⟨.header, items⟩)
  | some _ => none
where
  /-- The item under the key, in the table that a path leads to. -/
  itemAt : List String → List (String × Item) → Option (Option Item)
    | [], items => some (get? key items)
    | k :: path, items =>
      match get? k items with
      | some (.table _ items) => itemAt path items
      | some (.tables (last :: _)) => itemAt path last
      | _ => none

/-- Puts a finished table into its place. -/
def close? (root : Table) (path : List String) (key : String) (t : Table) : Option Table :=
  modify false (fun parent =>
    if (get? key parent.items).isSome then none
    else some { parent with items := parent.items ++ [(key, .table t.origin t.items)] }) path root

/-- Makes sure that a name can be shared by one more table. -/
def share? (root : Table) (path : List String) (key : String) : Option Table :=
  modify false (fun parent =>
    match get? key parent.items with
    | none => some { parent with items := parent.items ++ [(key, .tables [])] }
    | some (.tables _) => some parent
    | some _ => none) path root

/-- Adds a finished table to those that share its name. -/
def append? (root : Table) (path : List String) (key : String) (t : Table) : Option Table :=
  modify false (fun parent =>
    match get? key parent.items with
    | some (.tables rest) =>
      some { parent with items := put key (.tables (t.items :: rest)) parent.items }
    | _ => none) path root

mutual

def documentOfItem : Item → Json.Document
  | .value d => d
  | .table _ items => .object (membersOf items)
  | .tables ts => .array (documentsOf ts [])

def membersOf : List (String × Item) → List (Option String × Json.Document)
  | [] => []
  | (key, item) :: rest => (some key, documentOfItem item) :: membersOf rest

/-- The tables in their order, in front of `after`. -/
def documentsOf : List (List (String × Item)) → List Json.Document → List Json.Document
  | [], after => after
  | t :: ts, after => documentsOf ts (.object (membersOf t) :: after)

end

def document (t : Table) : Json.Document := .object (membersOf t.items)

end Table

end FixGrader.Toml
