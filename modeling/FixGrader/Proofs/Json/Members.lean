import FixGrader.Json.Value
/-!
# Looking up members

What is found among the members of an object after one was put in.
-/
namespace FixGrader.Json

theorem find_cons (key : String) (m : String × Json) (ms : List (String × Json)) :
    find? key (m :: ms) = if m.1 = key then some m.2 else find? key ms := by
  by_cases same : m.1 = key <;> simp [find?, same]

theorem find_insert_self (key : String) (value : Json) (members : List (String × Json)) :
    find? key (insert key value members) = some value := by
  induction members with
  | nil => simp [find?, insert]
  | cons m ms ih =>
    rw [insert]
    split
    · rename_i same
      simp [find?, same]
    · rename_i other
      simpa [find?, other] using ih

theorem find_insert_other {key key' : String} (other : key ≠ key') (value : Json)
    (members : List (String × Json)) :
    find? key (insert key' value members) = find? key members := by
  induction members with
  | nil => simp [find?, insert, other.symm]
  | cons m ms ih =>
    rw [insert]
    split
    · rename_i same
      rw [find_cons, find_cons, if_neg (fun h => other (h.symm.trans same)),
        if_neg (fun h => other (h.symm.trans same))]
    · rw [find_cons, find_cons, ih]

end FixGrader.Json
