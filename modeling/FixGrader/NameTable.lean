/-!
# Tables of names

Entries under names, each name once, in the ascending order of the names. Putting in a name that is
there replaces its value, so a table made of a list keeps the last value of each name.
-/
namespace FixGrader

structure NameTable (α : Type) where
  entries : List (String × α)
  ascending : entries.Pairwise (fun a b => a.1 < b.1)
  deriving Repr

namespace NameTable

variable {α : Type}

/-- Puts a value under a name into an ascending list. -/
def put (name : String) (value : α) : List (String × α) → List (String × α)
  | [] => [(name, value)]
  | entry :: rest =>
    if name < entry.1 then (name, value) :: entry :: rest
    else if entry.1 < name then entry :: put name value rest
    else (name, value) :: rest

theorem mem_put {name : String} {value : α} {entries : List (String × α)} {e : String × α}
    (h : e ∈ put name value entries) : e = (name, value) ∨ e ∈ entries := by
  induction entries with
  | nil => exact Or.inl (by simpa [put] using h)
  | cons entry rest ih =>
    rw [put] at h
    split at h
    · simpa using h
    · split at h
      · rcases List.mem_cons.mp h with rfl | h
        · simp
        · rcases ih h with rfl | h <;> simp_all
      · rcases List.mem_cons.mp h with rfl | h <;> simp_all

theorem put_ascending (name : String) (value : α) {entries : List (String × α)}
    (h : entries.Pairwise (fun a b => a.1 < b.1)) :
    (put name value entries).Pairwise (fun a b => a.1 < b.1) := by
  induction entries with
  | nil => simp [put]
  | cons entry rest ih =>
    obtain ⟨first, rest_ascending⟩ := List.pairwise_cons.mp h
    rw [put]
    split
    · rename_i below
      refine List.pairwise_cons.mpr ⟨fun e he => ?_, h⟩
      rcases List.mem_cons.mp he with rfl | he
      · exact below
      · exact String.lt_trans below (first e he)
    · split
      · rename_i above
        refine List.pairwise_cons.mpr ⟨fun e he => ?_, ih rest_ascending⟩
        rcases mem_put he with rfl | he
        · exact above
        · exact first e he
      · rename_i not_below not_above
        have same : entry.1 = name :=
          String.le_antisymm (String.not_lt.mp not_below) (String.not_lt.mp not_above)
        refine List.pairwise_cons.mpr ⟨fun e he => ?_, rest_ascending⟩
        exact same ▸ first e he

def empty : NameTable α := ⟨[], .nil⟩

instance : Inhabited (NameTable α) := ⟨empty⟩

/-- Puts a value under a name, in the stead of one that is there. -/
def insert (t : NameTable α) (name : String) (value : α) : NameTable α :=
  ⟨put name value t.entries, put_ascending name value t.ascending⟩

/-- A table that holds the last value of each name. -/
def ofList (l : List (String × α)) : NameTable α :=
  l.foldl (fun t (name, value) => t.insert name value) empty

def get? (t : NameTable α) (name : String) : Option α :=
  (t.entries.find? (·.1 = name)).map (·.2)

def names (t : NameTable α) : List String := t.entries.map (·.1)

def isEmpty (t : NameTable α) : Bool := t.entries.isEmpty

end NameTable

end FixGrader
