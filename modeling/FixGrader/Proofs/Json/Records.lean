import Mathlib.Data.List.Forall2
import Mathlib.Data.List.Nodup
import FixGrader.Json.Decoder
import FixGrader.Proofs.Json.Members
/-!
# What is read off a record

A record is an object, whose parts are found by the names of the fields, or an array, whose parts
are found by their places. What a decoder builds of a record comes from these parts. Where a name
may be repeated, the last one counts.
-/
namespace FixGrader.Json

/-- The last value under a key. -/
def lastUnder? {κ α : Type} [DecidableEq κ] (key : κ) (entries : List (κ × α)) : Option α :=
  (entries.filter (·.1 = key)).getLast?.map (·.2)

section Last
variable {κ α : Type} [DecidableEq κ] {key : κ} {entries : List (κ × α)}

theorem lastUnder?_nil : lastUnder? key ([] : List (κ × α)) = none := rfl

theorem lastUnder?_cons (e : κ × α) : lastUnder? key (e :: entries) =
    (lastUnder? key entries).or (if e.1 = key then some e.2 else none) := by
  unfold lastUnder?
  by_cases same : e.1 = key
  · rw [List.filter_cons_of_pos (by simpa using same), List.getLast?_cons, if_pos same]
    cases (entries.filter (·.1 = key)).getLast? <;> rfl
  · rw [List.filter_cons_of_neg (by simpa using same), if_neg same, Option.or_none]

theorem lastUnder?_isSome : (lastUnder? key entries).isSome ↔ key ∈ entries.map (·.1) := by
  induction entries with
  | nil => simp [lastUnder?_nil]
  | cons e entries ih =>
    rw [lastUnder?_cons, Option.isSome_or, Bool.or_eq_true, ih, List.map_cons, List.mem_cons,
      or_comm]
    refine or_congr_left ?_
    by_cases same : e.1 = key
    · simp [same]
    · simp [same, Ne.symm same]

theorem mem_of_lastUnder? {a : α} (h : lastUnder? key entries = some a) : (key, a) ∈ entries := by
  obtain ⟨e, last, rfl⟩ := Option.map_eq_some_iff.mp h
  obtain ⟨listed, same⟩ := List.mem_filter.mp (List.mem_of_getLast? last)
  rw [← of_decide_eq_true same]
  exact listed

/-- Without repeated keys each entry is the last one of its key. -/
theorem lastUnder?_eq_some_iff (distinct : (entries.map (·.1)).Nodup) {a : α} :
    lastUnder? key entries = some a ↔ (key, a) ∈ entries := by
  refine ⟨mem_of_lastUnder?, fun listed => ?_⟩
  have found : (lastUnder? key entries).isSome := lastUnder?_isSome.mpr (List.mem_map_of_mem listed)
  obtain ⟨b, last⟩ := Option.isSome_iff_exists.mp found
  have same := List.inj_on_of_nodup_map distinct listed (mem_of_lastUnder? last) rfl
  rw [last, (Prod.mk.inj same).2]

theorem lastUnder?_perm {entries' : List (κ × α)} (distinct : (entries.map (·.1)).Nodup)
    (permuted : entries'.Perm entries) : lastUnder? key entries' = lastUnder? key entries := by
  have distinct' : (entries'.map (·.1)).Nodup := (permuted.map (·.1)).nodup_iff.mpr distinct
  ext a
  rw [lastUnder?_eq_some_iff distinct, lastUnder?_eq_some_iff distinct', permuted.mem_iff]

/-- What is the last value of a key on one side comes from what is it on the other. -/
theorem lastUnder?_rel {κ' β : Type} [DecidableEq κ'] {entries' : List (κ' × β)} {f : κ' → κ}
    (injective : Function.Injective f) {R : α → β → Prop}
    (each : List.Forall₂ (fun e e' => e.1 = f e'.1 ∧ R e.2 e'.2) entries entries') (key' : κ') :
    Option.Rel R (lastUnder? (f key') entries) (lastUnder? key' entries') := by
  induction each with
  | nil => exact .none
  | @cons e e' entries entries' first _ ih =>
    obtain ⟨key, value⟩ := e
    obtain ⟨rfl, related⟩ := first
    rw [lastUnder?_cons, lastUnder?_cons]
    generalize lastUnder? (f key') entries = last at ih ⊢
    generalize lastUnder? key' entries' = last' at ih ⊢
    cases ih with
    | some later => exact .some later
    | none =>
      by_cases same : e'.1 = key'
      · simpa [same] using Option.Rel.some related
      · simp [same, injective.eq_iff]

end Last

namespace Document

def member? (name : String) : Document → Option Document
  | .object ms => lastUnder? (some name) ms
  | _ => none

/-- The part of a record for a field: the member of its name, or the item in its place. -/
def part? (place : Nat) (name : String) : Document → Option Document
  | .object ms => lastUnder? (some name) ms
  | .array items => items[place]?
  | _ => none

def string? : Document → Option String
  | .string s => s
  | _ => none

def natural? : Document → Option Nat
  | .number (some (.int i)) => if 0 ≤ i then some i.toNat else none
  | _ => none

def items : Document → List Document
  | .array items => items
  | _ => []

def text? (place : Nat) (name : String) (record : Document) : Option String :=
  (record.part? place name).bind string?

def number? (place : Nat) (name : String) (record : Document) : Option Nat :=
  (record.part? place name).bind natural?

def list (place : Nat) (name : String) (record : Document) : List Document :=
  (record.part? place name).elim [] items

end Document

namespace Decoder

def Slot.part? : Slot → Option Document
  | .found _ doc => some doc
  | _ => none

theorem mapM_eq_some_iff {β γ : Type} {f : β → Option γ} {l : List β} {l' : List γ} :
    l.mapM f = some l' ↔ List.Forall₂ (fun b c => f b = some c) l l' := by
  induction l generalizing l' with
  | nil => simp [eq_comm]
  | cons b l ih =>
    rw [List.mapM_cons, List.forall₂_cons_left_iff]
    simp only [← ih]
    cases f b with
    | none => simp
    | some c => cases l.mapM f <;> simp [eq_comm]

theorem slotNamed_part {depth : Nat} {ms : List (Option String × Document)} {name : String}
    {slot : Slot} (h : slotNamed depth ms name = some slot) :
    slot.part? = lastUnder? (some name) ms := by
  unfold slotNamed at h
  unfold lastUnder?
  split at h
  · rename_i absent
    cases h
    rw [absent]
    rfl
  · rename_i m doc only
    cases h
    rw [only]
    rfl
  · cases h

theorem slotNamed_perm {depth : Nat} {ms ms' : List (Option String × Document)}
    (permuted : ms'.Perm ms) (name : String) :
    slotNamed depth ms' name = slotNamed depth ms name := by
  have held : (ms'.filter (·.1 = some name)).Perm (ms.filter (·.1 = some name)) :=
    permuted.filter _
  unfold slotNamed
  generalize ms.filter (·.1 = some name) = l at held ⊢
  generalize ms'.filter (·.1 = some name) = l' at held ⊢
  match l with
  | [] => rw [List.perm_nil.mp held]
  | [m] => rw [List.perm_singleton.mp held]
  | m :: n :: l =>
    match l', held.length_eq with
    | _ :: _ :: _, _ => rfl

theorem slotNamed_cons_self {depth : Nat} {ms : List (Option String × Document)} {name : String}
    {doc : Document} {slot : Slot} : slotNamed depth ((some name, doc) :: ms) name = some slot ↔
      some name ∉ ms.map (·.1) ∧ slot = .found depth doc := by
  have absent : some name ∉ ms.map (·.1) ↔ ms.filter (·.1 = some name) = [] := by
    simp only [List.filter_eq_nil_iff, decide_eq_true_eq, List.mem_map, not_exists, not_and]
  unfold slotNamed
  rw [absent, List.filter_cons_of_pos (by simp)]
  cases ms.filter (·.1 = some name) <;> simp [eq_comm]

theorem slotNamed_cons_other {depth : Nat} {ms : List (Option String × Document)}
    {name : String} {m : Option String × Document} (other : m.1 ≠ some name) :
    slotNamed depth (m :: ms) name = slotNamed depth ms name := by
  unfold slotNamed
  rw [List.filter_cons_of_neg (by simpa using other)]

theorem objectSlots_perm {names : List String} {depth : Nat}
    {ms ms' : List (Option String × Document)} (permuted : ms'.Perm ms) :
    objectSlots names depth ms' = objectSlots names depth ms := by
  unfold objectSlots
  rw [permuted.any_eq, funext (slotNamed_perm permuted)]

theorem objectSlots_eq_some_iff {names : List String} {depth : Nat}
    {ms : List (Option String × Document)} {slots : List Slot} :
    objectSlots names depth ms = some slots ↔ ms.any (·.1.isNone) = false ∧
      List.Forall₂ (fun name slot => slotNamed depth ms name = some slot) names slots := by
  unfold objectSlots
  split
  · rename_i unnamed
    simp [unnamed]
  · rename_i named
    rw [mapM_eq_some_iff, Bool.eq_false_iff]
    exact (and_iff_right named).symm

theorem objectSlots_parts {names : List String} {depth : Nat}
    {ms : List (Option String × Document)} {slots : List Slot}
    (h : objectSlots names depth ms = some slots) :
    slots.map Slot.part? = names.mapIdx fun _ name => lastUnder? (some name) ms := by
  obtain ⟨-, each⟩ := objectSlots_eq_some_iff.mp h
  clear h
  induction each with
  | nil => rfl
  | cons first _ ih => rw [List.map_cons, List.mapIdx_cons, slotNamed_part first, ih]

/-- A name that a record knows is not repeated. -/
theorem lastUnder?_of_objectSlots {names : List String} {depth : Nat}
    {ms : List (Option String × Document)} {slots : List Slot}
    (h : objectSlots names depth ms = some slots) {name : String} (known : name ∈ names)
    {doc : Document} (written : (some name, doc) ∈ ms) :
    lastUnder? (some name) ms = some doc := by
  obtain ⟨-, each⟩ := objectSlots_eq_some_iff.mp h
  obtain ⟨slot, named⟩ : ∃ slot, slotNamed depth ms name = some slot := by
    clear h
    induction each with
    | nil => cases known
    | cons first _ ih =>
      rcases List.mem_cons.mp known with rfl | later
      · exact ⟨_, first⟩
      · exact ih later
  have among : (some name, doc) ∈ ms.filter (·.1 = some name) :=
    List.mem_filter.mpr ⟨written, decide_eq_true rfl⟩
  unfold lastUnder?
  unfold slotNamed at named
  split at named
  · rename_i absent
    rw [absent] at among
    cases among
  · rename_i only
    rw [only] at among ⊢
    cases List.mem_singleton.mp among
    rfl
  · cases named

theorem arraySlots_parts {more : Bool} {names : List String} {depth : Nat} {docs : List Document}
    {slots : List Slot} (h : arraySlots more depth names docs = some slots) :
    slots.map Slot.part? = names.mapIdx fun place _ => docs[place]? := by
  induction names generalizing docs slots with
  | nil =>
    cases docs with
    | nil =>
      cases h
      rfl
    | cons doc docs =>
      rw [arraySlots] at h
      split at h
      · cases h
        rfl
      · cases h
  | cons name names ih =>
    cases docs with
    | nil =>
      obtain ⟨others, rest, rfl⟩ := Option.map_eq_some_iff.mp h
      rw [List.map_cons, List.mapIdx_cons, ih rest]
      simp [Slot.part?]
    | cons doc docs =>
      obtain ⟨others, rest, rfl⟩ := Option.map_eq_some_iff.mp h
      rw [List.map_cons, List.mapIdx_cons, ih rest]
      simp [Slot.part?]

variable {α : Type}

/-- What is built of a record is built of its parts. -/
theorem record_parts {names : List String} {build : List Slot → Option α} {depth : Nat}
    {doc : Document} {a : α} (h : record names build depth doc = some a) :
    ∃ slots, build slots = some a ∧
      slots.map Slot.part? = names.mapIdx fun place name => doc.part? place name := by
  cases depth with
  | zero => cases doc <;> cases h
  | succ depth =>
    cases doc with
    | object ms =>
      obtain ⟨slots, named, built⟩ := Option.bind_eq_some_iff.mp h
      exact ⟨slots, built, objectSlots_parts named⟩
    | array docs =>
      obtain ⟨slots, placed, built⟩ := Option.bind_eq_some_iff.mp h
      exact ⟨slots, built, arraySlots_parts placed⟩
    | _ => cases h

theorem required_found {d : Decoder α} {slot : Slot} {a : α} (h : slot.required d = some a) :
    ∃ depth doc, slot.part? = some doc ∧ d depth doc = some a := by
  cases slot with
  | found depth doc => exact ⟨depth, doc, rfl, h⟩
  | noMember => cases h
  | noItem => cases h

theorem nullable_found {d : Decoder α} {slot : Slot} {o : Option α} (h : slot.nullable d = some o) :
    slot.part? = none ∧ o = none ∨
      ∃ depth doc, slot.part? = some doc ∧ Decoder.nullable d depth doc = some o := by
  cases slot with
  | found depth doc => exact Or.inr ⟨depth, doc, rfl, h⟩
  | noMember =>
    cases h
    exact Or.inl ⟨rfl, rfl⟩
  | noItem => cases h

theorem orElse_found {d : Decoder α} {fallback : α} {slot : Slot} {a : α}
    (h : slot.orElse fallback d = some a) :
    slot.part? = none ∧ a = fallback ∨
      ∃ depth doc, slot.part? = some doc ∧ d depth doc = some a := by
  cases slot with
  | found depth doc => exact Or.inr ⟨depth, doc, rfl, h⟩
  | noMember =>
    cases h
    exact Or.inl ⟨rfl, rfl⟩
  | noItem =>
    cases h
    exact Or.inl ⟨rfl, rfl⟩

theorem nullable_eq_some {d : Decoder α} {depth : Nat} {doc : Document} {o : Option α}
    (h : Decoder.nullable d depth doc = some o) :
    doc = .null ∧ o = none ∨ ∃ a, o = some a ∧ d depth doc = some a := by
  cases doc with
  | null =>
    cases h
    exact Or.inl ⟨rfl, rfl⟩
  | _ =>
    obtain ⟨a, decoded, rfl⟩ := Option.map_eq_some_iff.mp h
    exact Or.inr ⟨a, rfl, decoded⟩

theorem list_eq_some {d : Decoder α} {depth : Nat} {doc : Document} {l : List α}
    (h : Decoder.list d depth doc = some l) : ∃ inner,
      doc = .array doc.items ∧ List.Forall₂ (fun doc a => d inner doc = some a) doc.items l := by
  cases depth with
  | zero => cases doc <;> cases h
  | succ inner =>
    cases doc with
    | array docs => exact ⟨inner, rfl, mapM_eq_some_iff.mp h⟩
    | _ => cases h

/-- The items of a list that may be missing. -/
theorem orElse_list {d : Decoder α} {slot : Slot} {l : List α}
    (h : slot.orElse [] (.list d) = some l) : ∃ depth,
      List.Forall₂ (fun doc a => d depth doc = some a) (slot.part?.elim [] Document.items) l := by
  obtain ⟨absent, rfl⟩ | ⟨depth, doc, part, decoded⟩ := orElse_found h
  · rw [absent]
    exact ⟨0, .nil⟩
  · obtain ⟨inner, -, each⟩ := list_eq_some decoded
    rw [part]
    exact ⟨inner, each⟩

theorem ofText_eq_ok_iff {d : Decoder α} {s : String} {a : α} :
    d.ofText s = .ok a ↔ ∃ doc, Document.ofText s = .ok doc ∧ d maxDepth doc = some a := by
  unfold ofText
  cases Document.ofText s with
  | error e => simp
  | ok doc => cases decoded : d maxDepth doc <;> simp [decoded]

theorem ofText_empty {d : Decoder α} {s : String} (empty : s.isEmpty = true) (a : α) :
    d.ofText s ≠ .ok a := by
  rw [String.isEmpty_iff.mp empty]
  intro read
  cases read

/-- A decoder that takes from a document what can be seen without it, and nothing from null. -/
structure Reads (d : Decoder α) (read : Document → Option α) : Prop where
  null : read .null = none
  decoded : ∀ {depth doc a}, d depth doc = some a → read doc = some a

theorem string_reads : Reads .string Document.string? := by
  refine ⟨rfl, fun {depth doc s} h => ?_⟩
  cases doc with
  | string text => exact h
  | _ => cases h

theorem natural_reads (bits : Nat) : Reads (.natural bits) Document.natural? := by
  refine ⟨rfl, fun {depth doc n} h => ?_⟩
  obtain ⟨i, number, within⟩ := Option.bind_eq_some_iff.mp h
  split at within
  · rename_i range
    cases within
    unfold Decoder.int at number
    split at number
    · cases number
      exact if_pos range.1
    · cases number
  · cases within

namespace Reads
variable {d : Decoder α} {read : Document → Option α} {slot : Slot} {o : Option α}

theorem required (reads : Reads d read) {a : α} (h : slot.required d = some a) :
    slot.part?.bind read = some a := by
  obtain ⟨depth, doc, part, decoded⟩ := required_found h
  rw [part, Option.bind_some, reads.decoded decoded]

theorem orNull (reads : Reads d read) {depth : Nat} {doc : Document}
    (h : Decoder.nullable d depth doc = some o) : read doc = o := by
  obtain ⟨rfl, rfl⟩ | ⟨a, rfl, decoded⟩ := nullable_eq_some h
  · exact reads.null
  · exact reads.decoded decoded

theorem nullable (reads : Reads d read) (h : slot.nullable d = some o) :
    slot.part?.bind read = o := by
  obtain ⟨absent, rfl⟩ | ⟨depth, doc, part, decoded⟩ := nullable_found h
  · rw [absent, Option.bind_none]
  · rw [part, Option.bind_some, reads.orNull decoded]

theorem orElseNone (reads : Reads d read) (h : slot.orElse none (Decoder.nullable d) = some o) :
    slot.part?.bind read = o := by
  obtain ⟨absent, rfl⟩ | ⟨depth, doc, part, decoded⟩ := orElse_found h
  · rw [absent, Option.bind_none]
  · rw [part, Option.bind_some, reads.orNull decoded]

end Reads

end Decoder

/-- Only a text has a text as its value. -/
theorem string?_valueAt (depth : Nat) (doc : Document) :
    (valueAt depth doc).bind Json.string? = doc.string? := by
  cases doc with
  | null | bool => rfl
  | number n => cases n <;> rfl
  | string s => cases s <;> rfl
  | array docs =>
    cases depth with
    | zero => rfl
    | succ depth =>
      change ((itemValues depth docs).map Json.array).bind Json.string? = none
      cases itemValues depth docs <;> rfl
  | object ms =>
    cases depth with
    | zero => rfl
    | succ depth =>
      change ((memberValues depth ms []).map Json.object).bind Json.string? = none
      cases memberValues depth ms [] <;> rfl

/-- Of each name the value of the last member is found, or what was there before. -/
theorem find_memberValues {depth : Nat} {ms : List (Option String × Document)}
    {before values : List (String × Json)} (h : memberValues depth ms before = some values)
    (name : String) : find? name values =
      (lastUnder? (some name) ms).elim (find? name before) (valueAt depth) := by
  induction ms generalizing before with
  | nil =>
    cases h
    rfl
  | cons m ms ih =>
    obtain ⟨key, doc⟩ := m
    obtain ⟨k, rfl, h⟩ := Option.bind_eq_some_iff.mp h
    obtain ⟨j, value, h⟩ := Option.bind_eq_some_iff.mp h
    rw [ih h, lastUnder?_cons]
    cases lastUnder? (some name) ms with
    | some later => rfl
    | none =>
      by_cases same : k = name
      · subst same
        simp [find_insert_self, value]
      · simp [find_insert_other (Ne.symm same), same]

/-- A text among the members of a value was the last member of its name. -/
theorem string?_get? {depth : Nat} {doc : Document} {j : Json} (h : valueAt depth doc = some j)
    (name : String) :
    (j.get? name).bind Json.string? = (doc.member? name).bind Document.string? := by
  cases doc with
  | null | bool =>
    cases h
    rfl
  | number n =>
    obtain ⟨n', -, rfl⟩ := Option.map_eq_some_iff.mp h
    rfl
  | string s =>
    obtain ⟨s', -, rfl⟩ := Option.map_eq_some_iff.mp h
    rfl
  | array docs =>
    cases depth with
    | zero => cases h
    | succ depth =>
      obtain ⟨js, -, rfl⟩ := Option.map_eq_some_iff.mp h
      rfl
  | object ms =>
    cases depth with
    | zero => cases h
    | succ depth =>
      obtain ⟨values, read, rfl⟩ := Option.map_eq_some_iff.mp h
      change (find? name values).bind Json.string? = (lastUnder? (some name) ms).bind _
      rw [find_memberValues read]
      cases lastUnder? (some name) ms with
      | none => rfl
      | some inner => exact string?_valueAt depth inner

end FixGrader.Json
