import FixGrader.Proofs.Json.Reprint
import FixGrader.Proofs.Json.RoundTrip
/-!
# Values that come from a text

What is read off a text is nested no deeper than a reader goes, has no key twice and holds integers of
64 bits and finite doubles only. So it can be printed and read again. It stays the same as far as its
doubles do, and its shape stays the same in any case.
-/
namespace FixGrader.Json

open Document

def Number.InRange : Number → Prop
  | .int i => -2 ^ (63 : Nat) ≤ i ∧ i < 2 ^ (64 : Nat)
  | .real d => d.Proper

theorem numberValue_inRange {negative : Bool} {whole : List Char} {fraction : Option (List Char)}
    {exponent : Option (Bool × List Char)} {n : Number}
    (h : numberValue negative whole fraction exponent = some n) : n.InRange := by
  have bound := takeDigits_le whole (n := 0) (by decide)
  have bound' := takeDigits_le (fraction.getD []) bound
  unfold numberValue at h
  dsimp only at h
  split at h
  · split at h
    · split at h
      · cases h
        exact (Double.ofNat_proper (natural_lt_overflow bound)).neg
      · rename_i range
        cases h
        simp only [Number.InRange]
        omega
    · cases h
      simp only [Number.InRange, maxNatural] at bound ⊢
      omega
  · split at h
    · obtain ⟨d, read, rfl⟩ := Option.map_eq_some_iff.mp h
      exact scaled_proper bound' read
    · split at h
      · split at h
        · cases h
        · cases h
          exact Double.proper_signedZero negative
      · obtain ⟨d, read, rfl⟩ := Option.map_eq_some_iff.mp h
        exact scaled_proper bound' read

inductive Document.Numbered (P : Number → Prop) : Document → Prop where
  | null : Numbered P .null
  | bool (b : Bool) : Numbered P (.bool b)
  | number {n : Option Number} (kind : ∀ m, n = some m → P m) : Numbered P (.number n)
  | string (s : Option String) : Numbered P (.string s)
  | array {items : List Document} (inner : ∀ d ∈ items, Numbered P d) : Numbered P (.array items)
  | object {members : List (Option String × Document)} (inner : ∀ m ∈ members, Numbered P m.2) :
      Numbered P (.object members)

theorem readNumber_inRange {negative : Bool} {cs rest : List Char} {n : Option Number}
    (h : readNumber? negative cs = some (n, rest)) : ∀ m, n = some m → m.InRange := by
  unfold readNumber? at h
  dsimp only at h
  split at h
  · cases h
  · obtain ⟨value, -⟩ := Prod.mk.inj (Option.some.inj h)
    intro m same
    exact numberValue_inRange (value.trans same)

theorem bind_ok {ε α β : Type} {x : Except ε α} {f : α → Except ε β} {b : β}
    (h : (x >>= f) = .ok b) : ∃ a, x = .ok a ∧ f a = .ok b := by
  cases x with
  | error e => cases h
  | ok a => exact ⟨a, rfl, h⟩

theorem readItems_numbered {fuel : Nat}
    (value : ∀ cs d rest, readValue fuel cs = .ok (d, rest) → d.Numbered Number.InRange)
    (items : ∀ cs ds rest, readItems fuel cs = .ok (ds, rest) →
      ∀ d ∈ ds, d.Numbered Number.InRange) :
    ∀ cs ds rest, readItems (fuel + 1) cs = .ok (ds, rest) → ∀ d ∈ ds, d.Numbered Number.InRange := by
  intro cs ds rest h
  rw [readItems] at h
  obtain ⟨⟨first, behind⟩, read, h⟩ := bind_ok h
  have ranged := value _ _ _ read
  dsimp only at h
  split at h
  · obtain ⟨⟨others, end_⟩, readRest, h⟩ := bind_ok h
    cases h
    intro d listed
    rcases List.mem_cons.mp listed with rfl | listed
    · exact ranged
    · exact items _ _ _ readRest d listed
  · cases h
    intro d listed
    rw [List.mem_singleton.mp listed]
    exact ranged
  · cases h

theorem readMembers_numbered {fuel : Nat}
    (value : ∀ cs d rest, readValue fuel cs = .ok (d, rest) → d.Numbered Number.InRange)
    (members : ∀ cs ms rest, readMembers fuel cs = .ok (ms, rest) →
      ∀ m ∈ ms, m.2.Numbered Number.InRange) :
    ∀ cs ms rest, readMembers (fuel + 1) cs = .ok (ms, rest) →
      ∀ m ∈ ms, m.2.Numbered Number.InRange := by
  intro cs ms rest h
  rw [readMembers] at h
  split at h
  · split at h
    · cases h
    · split at h
      · obtain ⟨⟨first, behind⟩, read, h⟩ := bind_ok h
        have ranged := value _ _ _ read
        dsimp only at h
        split at h
        · obtain ⟨⟨others, end_⟩, readRest, h⟩ := bind_ok h
          cases h
          intro m listed
          rcases List.mem_cons.mp listed with rfl | listed
          · exact ranged
          · exact members _ _ _ readRest m listed
        · cases h
          intro m listed
          rw [List.mem_singleton.mp listed]
          exact ranged
        · cases h
      · cases h
  · cases h

theorem readValue_numbered {fuel : Nat}
    (items : ∀ cs ds rest, readItems fuel cs = .ok (ds, rest) →
      ∀ d ∈ ds, d.Numbered Number.InRange)
    (members : ∀ cs ms rest, readMembers fuel cs = .ok (ms, rest) →
      ∀ m ∈ ms, m.2.Numbered Number.InRange) :
    ∀ cs d rest, readValue (fuel + 1) cs = .ok (d, rest) → d.Numbered Number.InRange := by
  intro cs d rest h
  rw [readValue] at h
  dsimp only at h
  split at h
  · cases h
  · split at h
    · cases h
      exact .array (by simp)
    · obtain ⟨⟨ds, behind⟩, read, h⟩ := bind_ok h
      cases h
      exact .array (items _ _ _ read)
  · split at h
    · cases h
      exact .object (by simp)
    · obtain ⟨⟨ms, behind⟩, read, h⟩ := bind_ok h
      cases h
      exact .object (members _ _ _ read)
  · obtain ⟨⟨s, behind⟩, -, h⟩ := bind_ok h
    cases h
    exact .string s
  · obtain ⟨⟨n, behind⟩, read, h⟩ := bind_ok h
    cases h
    split at read
    · rename_i number
      cases read
      exact .number (readNumber_inRange number)
    · cases read
  · obtain ⟨behind, -, h⟩ := bind_ok h
    cases h
    exact .bool true
  · obtain ⟨behind, -, h⟩ := bind_ok h
    cases h
    exact .bool false
  · obtain ⟨behind, -, h⟩ := bind_ok h
    cases h
    exact .null
  · obtain ⟨⟨n, behind⟩, read, h⟩ := bind_ok h
    cases h
    split at read
    · rename_i number
      cases read
      exact .number (readNumber_inRange number)
    · cases read

theorem read_numbered (fuel : Nat) :
    (∀ cs d rest, readValue fuel cs = .ok (d, rest) → d.Numbered Number.InRange) ∧
      (∀ cs ds rest, readItems fuel cs = .ok (ds, rest) → ∀ d ∈ ds, d.Numbered Number.InRange) ∧
      ∀ cs ms rest, readMembers fuel cs = .ok (ms, rest) →
        ∀ m ∈ ms, m.2.Numbered Number.InRange := by
  induction fuel with
  | zero =>
    refine ⟨?_, ?_, ?_⟩
    · intro cs d rest h
      cases h
    · intro cs ds rest h
      cases h
    · intro cs ms rest h
      cases h
  | succ fuel ih =>
    obtain ⟨value, items, members⟩ := ih
    exact ⟨readValue_numbered items members, readItems_numbered value items,
      readMembers_numbered value members⟩

theorem insert_keys {key : String} {value : Json} {members : List (String × Json)}
    (distinct : (members.map (·.1)).Nodup) :
    ((insert key value members).map (·.1)).Nodup ∧
      ∀ k ∈ (insert key value members).map (·.1), k = key ∨ k ∈ members.map (·.1) := by
  induction members with
  | nil => simp [insert]
  | cons m ms ih =>
    obtain ⟨first, others⟩ := List.nodup_cons.mp distinct
    obtain ⟨distinct', origin⟩ := ih others
    rw [insert]
    split
    · exact ⟨distinct, fun k listed => Or.inr listed⟩
    · rename_i other
      rw [List.map_cons]
      refine ⟨List.nodup_cons.mpr ⟨?_, distinct'⟩, ?_⟩
      · intro listed
        rcases origin _ listed with same | listed
        · exact other same
        · exact first listed
      · intro k listed
        rcases List.mem_cons.mp listed with rfl | listed
        · exact Or.inr (by simp)
        · rcases origin k listed with same | listed
          · exact Or.inl same
          · exact Or.inr (by rw [List.map_cons]; exact List.mem_cons_of_mem _ listed)

theorem mem_insert {key : String} {value : Json} {members : List (String × Json)}
    {m : String × Json} (h : m ∈ insert key value members) : m = (key, value) ∨ m ∈ members := by
  induction members with
  | nil => exact Or.inl (by simpa [insert] using h)
  | cons m' ms ih =>
    rw [insert] at h
    split at h
    · rename_i same
      rcases List.mem_cons.mp h with rfl | listed
      · exact Or.inl (by rw [same])
      · exact Or.inr (List.mem_cons_of_mem m' listed)
    · rcases List.mem_cons.mp h with rfl | listed
      · exact Or.inr List.mem_cons_self
      · rcases ih listed with same | listed
        · exact Or.inl same
        · exact Or.inr (List.mem_cons_of_mem m' listed)

variable {P : Number → Prop}

theorem itemValues_fits {depth : Nat} {documents : List Document} {items : List Json}
    (fits : ∀ d ∈ documents, ∀ j, valueAt depth d = some j → Fits P depth j)
    (h : itemValues depth documents = some items) : ∀ j ∈ items, Fits P depth j := by
  induction documents generalizing items with
  | nil =>
    cases h
    simp
  | cons d ds ih =>
    rw [itemValues] at h
    obtain ⟨j, value, h⟩ := Option.bind_eq_some_iff.mp h
    obtain ⟨js, values, h⟩ := Option.bind_eq_some_iff.mp h
    cases h
    intro j' listed
    rcases List.mem_cons.mp listed with rfl | listed
    · exact fits d (by simp) _ value
    · exact ih (fun d' listed' => fits d' (List.mem_cons_of_mem d listed')) values j' listed

theorem memberValues_fits {depth : Nat} {documents : List (Option String × Document)}
    {before members : List (String × Json)}
    (fits : ∀ m ∈ documents, ∀ j, valueAt depth m.2 = some j → Fits P depth j)
    (distinct : (before.map (·.1)).Nodup) (fitsBefore : ∀ m ∈ before, Fits P depth m.2)
    (h : memberValues depth documents before = some members) :
    (members.map (·.1)).Nodup ∧ ∀ m ∈ members, Fits P depth m.2 := by
  induction documents generalizing before with
  | nil =>
    cases h
    exact ⟨distinct, fitsBefore⟩
  | cons d ds ih =>
    obtain ⟨name, d⟩ := d
    rw [memberValues] at h
    obtain ⟨key, -, h⟩ := Option.bind_eq_some_iff.mp h
    obtain ⟨j, value, h⟩ := Option.bind_eq_some_iff.mp h
    refine ih (fun m listed => fits m (List.mem_cons_of_mem _ listed)) (insert_keys distinct).1 ?_ h
    intro m listed
    rcases mem_insert listed with rfl | listed
    · exact fits _ List.mem_cons_self _ value
    · exact fitsBefore m listed

theorem valueAt_fits {document : Document} (numbered : document.Numbered P) :
    ∀ depth j, valueAt depth document = some j → Fits P depth j := by
  induction numbered with
  | null =>
    intro depth j h
    cases h
    exact .null
  | bool b =>
    intro depth j h
    cases h
    exact .bool b
  | @number n kind =>
    intro depth j h
    cases n with
    | none => cases h
    | some n =>
      cases h
      exact .number (kind n rfl)
  | string s =>
    intro depth j h
    cases s with
    | none => cases h
    | some s =>
      cases h
      exact .string s
  | array inner ih =>
    intro depth j h
    cases depth with
    | zero => cases h
    | succ depth =>
      obtain ⟨items, values, rfl⟩ := Option.map_eq_some_iff.mp h
      exact .array (itemValues_fits (fun d listed => ih d listed depth) values)
  | object inner ih =>
    intro depth j h
    cases depth with
    | zero => cases h
    | succ depth =>
      obtain ⟨members, values, rfl⟩ := Option.map_eq_some_iff.mp h
      obtain ⟨distinct, fits⟩ := memberValues_fits (fun m listed => ih m listed depth)
        (by simp) (by simp) values
      exact .object distinct fits

/-- What a text stands for is nested within the reader's depth and has no key twice. -/
theorem fits_of_ofText {text : String} {j : Json} (h : ofText text = .ok j) :
    Fits Number.InRange maxDepth j := by
  obtain ⟨document, rest, read, -, value⟩ := ofText_ok h
  exact valueAt_fits ((read_numbered _).1 _ _ _ read) maxDepth j value

mutual

def numbers : Json → List Number
  | .number n => [n]
  | .array items => itemNumbers items
  | .object members => memberNumbers members
  | _ => []

def itemNumbers : List Json → List Number
  | [] => []
  | j :: js => numbers j ++ itemNumbers js

def memberNumbers : List (String × Json) → List Number
  | [] => []
  | (_, j) :: ms => numbers j ++ memberNumbers ms

end

theorem mem_itemNumbers {n : Number} {j : Json} {items : List Json} (listed : j ∈ items)
    (held : n ∈ numbers j) : n ∈ itemNumbers items := by
  induction items with
  | nil => cases listed
  | cons j' js ih =>
    rw [itemNumbers, List.mem_append]
    rcases List.mem_cons.mp listed with rfl | listed
    · exact Or.inl held
    · exact Or.inr (ih listed)

theorem mem_memberNumbers {n : Number} {m : String × Json} {members : List (String × Json)}
    (listed : m ∈ members) (held : n ∈ numbers m.2) : n ∈ memberNumbers members := by
  induction members with
  | nil => cases listed
  | cons m' ms ih =>
    rw [memberNumbers, List.mem_append]
    rcases List.mem_cons.mp listed with rfl | listed
    · exact Or.inl held
    · exact Or.inr (ih listed)

theorem Fits.of_numbers {Q : Number → Prop} {depth : Nat} {j : Json} (fits : Fits P depth j)
    (kinds : ∀ n ∈ numbers j, P n → Q n) : Fits Q depth j := by
  induction fits with
  | null => exact .null
  | bool b => exact .bool b
  | number kind => exact .number (kinds _ (by simp [numbers]) kind)
  | string s => exact .string s
  | @array _ items inner ih =>
    refine .array fun j listed => ih j listed fun n held => kinds n ?_
    rw [numbers]
    exact mem_itemNumbers listed held
  | @object _ members distinct inner ih =>
    refine .object distinct fun m listed => ih m listed fun n held => kinds n ?_
    rw [numbers]
    exact mem_memberNumbers listed held

/-- Every number of a text is read as some number when it is printed. -/
theorem reads_of_inRange {n : Number} (range : n.InRange) : ∃ n', ReadsAs n n' := by
  cases n with
  | int i => exact ⟨.int i, readBack_int range.1 range.2⟩
  | real d => exact readsAs_of_proper range

/-- What was read is read again when it is printed, with the same shape. -/
theorem Fits.rereads {depth : Nat} {j : Json} (fits : Fits Number.InRange depth j) :
    ∃ f, Fits (Rereads f) depth j := by
  classical
  have read : ∀ n : Number, ∃ n', n.InRange → ReadsAs n n' := by
    intro n
    by_cases range : n.InRange
    · obtain ⟨n', reads⟩ := reads_of_inRange range
      exact ⟨n', fun _ => reads⟩
    · exact ⟨n, fun range' => absurd range' range⟩
  obtain ⟨f, reads⟩ := Classical.axiomOfChoice read
  exact ⟨f, fits.of_numbers fun n _ range => reads n range⟩

/-- What was read is read back when it is printed, if this is so for each of its doubles. -/
theorem Fits.readBack {depth : Nat} {j : Json} (fits : Fits Number.InRange depth j)
    (lossless : ∀ d, .real d ∈ numbers j → Number.Lossless (.real d)) : Fits ReadBack depth j := by
  refine fits.of_numbers fun n held range => ?_
  cases n with
  | int i => exact readBack_int range.1 range.2
  | real d => exact (lossless d held).readBack

end FixGrader.Json
