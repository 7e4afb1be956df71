import FixGrader.Proofs.Json.RoundTrip
/-!
# What is written is decoded

A value is written in one form and read by a decoder, which sees no more than a document. Whether
the one undoes the other is said here for each kind of decoder, so that for a record it is enough to
look at its fields, and for a list at its items.
-/
namespace FixGrader.Json

open Document

theorem Fits.mono {P : Number → Prop} {depth depth' : Nat} {j : Json} (fits : Fits P depth j)
    (le : depth ≤ depth') : Fits P depth' j := by
  induction fits generalizing depth' with
  | null => exact .null
  | bool b => exact .bool b
  | number kind => exact .number kind
  | string s => exact .string s
  | array _ ih =>
    obtain ⟨outer, rfl⟩ : ∃ outer, depth' = outer + 1 := ⟨depth' - 1, by omega⟩
    exact .array fun j listed => ih j listed (by omega)
  | object distinct _ ih =>
    obtain ⟨outer, rfl⟩ : ∃ outer, depth' = outer + 1 := ⟨depth' - 1, by omega⟩
    exact .object distinct fun m listed => ih m listed (by omega)

/-- A value in a form that is nested no deeper than some levels, and from which a decoder reads the
value. -/
structure Written {α : Type} (decoder : Decoder α) (levels : Nat) (j : Json) (a : α) : Prop where
  fits : Fits ReadBack levels j
  decoded : ∀ depth, levels ≤ depth → decoder depth j.document = some a

namespace Written
variable {α β : Type} {d : Decoder α} {levels : Nat} {j : Json} {a : α}

/-- The text of a value is decoded to it. -/
theorem ofText (written : Written d levels j a) (shallow : levels ≤ maxDepth) :
    d.ofText j.pretty = .ok a := by
  have fits : Fits (Rereads id) levels j := written.fits
  have blank : ∀ c ∈ "".toList, isGap c = true := by simp
  have read := document_reprinted fits blank
  rw [mapNumbers_id, String.append_empty] at read
  unfold Decoder.ofText
  rw [read]
  simp only [written.decoded maxDepth shallow]

theorem string (levels : Nat) (s : String) : Written .string levels (.string s) s :=
  ⟨.string s, fun _ _ => rfl⟩

theorem bool (levels : Nat) (b : Bool) : Written .bool levels (.bool b) b :=
  ⟨.bool b, fun _ _ => rfl⟩

theorem natural (levels : Nat) {bits n : Nat} (small : n < 2 ^ bits) (word : n < 2 ^ (64 : Nat)) :
    Written (.natural bits) levels (ofNat n) n := by
  refine ⟨.number (readBack_int (by omega) (by omega)), fun _ _ => ?_⟩
  have range : (0 : Int) ≤ n ∧ (n : Int) < 2 ^ bits :=
    ⟨Int.natCast_nonneg n, by exact_mod_cast small⟩
  simp [Decoder.natural, Decoder.filterMap, Decoder.int, ofNat, document, range]

theorem double (levels : Nat) {x : Double} (lossless : Number.Lossless (.real x)) :
    Written .double levels (.number (.real x)) x :=
  ⟨.number lossless.readBack, fun _ _ => rfl⟩

theorem keyword (levels : Nat) {ofWord? : String → Option α} {s : String}
    (known : ofWord? s = some a) : Written (.keyword ofWord?) levels (.string s) a :=
  ⟨.string s, fun _ _ => known⟩

theorem value (fits : Fits ReadBack levels j) : Written .value levels j j :=
  ⟨fits, fun _ deep => (fits.mono deep).valueAt_document⟩

theorem map (written : Written d levels j a) (f : α → β) : Written (d.map f) levels j (f a) :=
  ⟨written.fits, fun depth deep => by rw [Decoder.map, written.decoded depth deep]; rfl⟩

theorem filterMap (written : Written d levels j a) {f : α → Option β} {b : β}
    (kept : f a = some b) : Written (d.filterMap f) levels j b := by
  refine ⟨written.fits, fun depth deep => ?_⟩
  rw [Decoder.filterMap, written.decoded depth deep]
  exact kept

theorem null : Written d.nullable levels .null none := ⟨.null, fun _ _ => rfl⟩

theorem notNull (written : Written d levels j a) (filled : j ≠ .null) :
    Written d.nullable levels j (some a) := by
  refine ⟨written.fits, fun depth deep => ?_⟩
  have decoded := written.decoded depth deep
  revert decoded
  cases j with
  | null => exact absurd rfl filled
  | _ => exact fun decoded => congrArg (Option.map some) decoded

theorem option {toJson : α → Json} {o : Option α}
    (each : ∀ a, o = some a → Written d levels (toJson a) a) (filled : ∀ a, toJson a ≠ .null) :
    Written d.nullable levels (ofOption toJson o) o := by
  cases o with
  | none => exact null
  | some a => exact (each a rfl).notNull (filled a)

theorem list {toJson : α → Json} {l : List α} (each : ∀ a ∈ l, Written d levels (toJson a) a) :
    Written (.list d) (levels + 1) (.array (l.map toJson)) l := by
  constructor
  · refine .array fun j listed => ?_
    obtain ⟨a, there, rfl⟩ := List.mem_map.mp listed
    exact (each a there).fits
  · intro depth deep
    obtain ⟨inner, rfl⟩ : ∃ inner, depth = inner + 1 := ⟨depth - 1, by omega⟩
    rw [document, itemDocuments_eq_map, Decoder.list, List.map_map]
    induction l with
    | nil => rfl
    | cons a l ih =>
      obtain ⟨here, rest⟩ := List.forall_mem_cons.mp each
      rw [List.map_cons, List.mapM_cons, Function.comp_apply, here.decoded inner (by omega),
        ih rest]
      rfl

theorem strings (levels : Nat) (l : List String) :
    Written (.list .string) (levels + 1) (ofStrings l) l :=
  list fun s _ => string levels s

end Written

section Fields
open Decoder
variable {members : List (String × Json)} {depth : Nat}

theorem filter_key (distinct : (members.map (·.1)).Nodup) {name : String} {j : Json}
    (there : (name, j) ∈ members) : members.filter (·.1 = name) = [(name, j)] := by
  induction members with
  | nil => cases there
  | cons m ms ih =>
    obtain ⟨apart, rest⟩ := List.nodup_cons.mp distinct
    rcases List.mem_cons.mp there with rfl | later
    · have others : ms.filter (·.1 = name) = [] := by
        rw [List.filter_eq_nil_iff]
        intro m listed same
        exact apart (List.mem_map.mpr ⟨m, listed, of_decide_eq_true same⟩)
      rw [List.filter_cons_of_pos (by simp), others]
    · have unlike : m.1 ≠ name := by
        rintro rfl
        exact apart (List.mem_map.mpr ⟨_, later, rfl⟩)
      rw [List.filter_cons_of_neg (by simpa using unlike), ih rest later]

theorem filter_documents (name : String) :
    (memberDocuments members).filter (·.1 = some name) =
      (members.filter (·.1 = name)).map fun m => (some m.1, m.2.document) := by
  rw [memberDocuments_eq_map, List.filter_map]
  refine congrArg _ (List.filter_congr fun m _ => ?_)
  simp

/-- A field that an object has, under names that are not repeated. -/
theorem slotNamed_found (distinct : (members.map (·.1)).Nodup) {name : String} {j : Json}
    (there : (name, j) ∈ members) (depth : Nat) :
    slotNamed depth (memberDocuments members) name = some (.found depth j.document) := by
  rw [slotNamed, filter_documents, filter_key distinct there]
  rfl

/-- A field that an object does not have. -/
theorem slotNamed_absent {name : String} (absent : name ∉ members.map (·.1)) (depth : Nat) :
    slotNamed depth (memberDocuments members) name = some .noMember := by
  have nothing : members.filter (·.1 = name) = [] := by
    rw [List.filter_eq_nil_iff]
    intro m listed same
    exact absent (List.mem_map.mpr ⟨m, listed, of_decide_eq_true same⟩)
  rw [slotNamed, filter_documents, nothing]
  rfl

/-- Of an object without repeated names, some fields that it has, and some that it does not have. -/
theorem objectSlots_fields (distinct : (members.map (·.1)).Nodup) (fields : List (String × Json))
    (there : ∀ m ∈ fields, m ∈ members) (others : List String)
    (absent : ∀ name ∈ others, name ∉ members.map (·.1)) (depth : Nat) :
    objectSlots (fields.map (·.1) ++ others) depth (memberDocuments members) =
      some (fields.map (fun m => .found depth m.2.document) ++ others.map fun _ => .noMember) := by
  have named : (memberDocuments members).any (·.1.isNone) = false := by
    rw [memberDocuments_eq_map]
    simp
  unfold objectSlots
  rw [named, if_neg Bool.false_ne_true]
  induction fields with
  | nil =>
    induction others with
    | nil => rfl
    | cons name others ih =>
      obtain ⟨here, rest⟩ := List.forall_mem_cons.mp absent
      simp only [List.map_nil, List.nil_append] at ih ⊢
      rw [List.mapM_cons, slotNamed_absent here, ih rest]
      rfl
  | cons m fields ih =>
    obtain ⟨here, rest⟩ := List.forall_mem_cons.mp there
    rw [List.map_cons, List.cons_append, List.mapM_cons, slotNamed_found distinct here, ih rest]
    rfl

theorem objectSlots_some (distinct : (members.map (·.1)).Nodup) (fields : List (String × Json))
    (there : ∀ m ∈ fields, m ∈ members) (depth : Nat) :
    objectSlots (fields.map (·.1)) depth (memberDocuments members) =
      some (fields.map fun m => .found depth m.2.document) := by
  have slots := objectSlots_fields distinct fields there [] (List.forall_mem_nil _) depth
  rwa [List.append_nil, List.map_nil, List.append_nil] at slots

/-! The fields are asked for by these equations, and not by what the decoders of fields are: to
unfold them would be to compute with the bounds of numbers. -/

theorem Written.required {α : Type} {d : Decoder α} {levels : Nat} {j : Json} {a : α}
    (written : Written d levels j a) (deep : levels ≤ depth) :
    Slot.required d (.found depth j.document) = some a := written.decoded depth deep

theorem Written.orNull {α : Type} {d : Decoder α} {levels : Nat} {j : Json} {o : Option α}
    (written : Written d.nullable levels j o) (deep : levels ≤ depth) :
    Slot.nullable d (.found depth j.document) = some o := written.decoded depth deep

theorem Written.orElse {α : Type} {d : Decoder α} {levels : Nat} {j : Json} {a : α}
    (written : Written d levels j a) (fallback : α) (deep : levels ≤ depth) :
    Slot.orElse fallback d (.found depth j.document) = some a := written.decoded depth deep

/-- A record that is written with all its fields is decoded if it is built of them. -/
theorem Written.record {α : Type} {names : List String} {build : List Slot → Option α}
    {levels : Nat} {a : α} (named : members.map (·.1) = names) (distinct : names.Nodup)
    (fits : ∀ m ∈ members, Fits ReadBack levels m.2)
    (built : ∀ depth, levels ≤ depth →
      build (members.map fun m => .found depth m.2.document) = some a) :
    Written (.record names build) (levels + 1) (.object members) a := by
  subst named
  refine ⟨.object distinct fits, fun depth deep => ?_⟩
  obtain ⟨inner, rfl⟩ : ∃ inner, depth = inner + 1 := ⟨depth - 1, by omega⟩
  change (objectSlots _ inner (memberDocuments members)).bind build = some a
  rw [objectSlots_some distinct members (fun _ listed => listed)]
  exact built inner (by omega)

/-- A record that is written without its last field is decoded if it is built of the others. -/
theorem Written.recordButLast {α : Type} {names : List String} {last : String}
    {build : List Slot → Option α} {levels : Nat} {a : α}
    (named : members.map (·.1) ++ [last] = names) (distinct : names.Nodup)
    (fits : ∀ m ∈ members, Fits ReadBack levels m.2)
    (built : ∀ depth, levels ≤ depth →
      build ((members.map fun m => .found depth m.2.document) ++ [.noMember]) = some a) :
    Written (.record names build) (levels + 1) (.object members) a := by
  subst named
  obtain ⟨distinct, -, apart⟩ := List.nodup_append.mp distinct
  have absent : ∀ name ∈ [last], name ∉ members.map (·.1) :=
    fun name listed there => apart name there name listed rfl
  refine ⟨.object distinct fits, fun depth deep => ?_⟩
  obtain ⟨inner, rfl⟩ : ∃ inner, depth = inner + 1 := ⟨depth - 1, by omega⟩
  change (objectSlots _ inner (memberDocuments members)).bind build = some a
  rw [objectSlots_fields distinct members (fun _ listed => listed) [last] absent]
  exact built inner (by omega)

end Fields

end FixGrader.Json
