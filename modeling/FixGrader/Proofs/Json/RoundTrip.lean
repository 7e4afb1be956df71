import FixGrader.Proofs.Json.Quoted
import FixGrader.Proofs.Json.ReadBack
/-!
# What is printed is read back

The text of a value over several lines stands for a value again, if its containers are not nested too
deep, none of its objects has a key twice and the text of each of its numbers is read. It is the same
value but for the numbers, and quite the same if these are read back.
-/
namespace FixGrader.Json
open Document

/-- A value whose containers are nested no deeper than a bound, whose objects have no key twice, and
whose numbers are of some kind. -/
inductive Fits (P : Number → Prop) : Nat → Json → Prop where
  | null {depth : Nat} : Fits P depth .null
  | bool {depth : Nat} (b : Bool) : Fits P depth (.bool b)
  | number {depth : Nat} {n : Number} (kind : P n) : Fits P depth (.number n)
  | string {depth : Nat} (s : String) : Fits P depth (.string s)
  | array {depth : Nat} {items : List Json} (inner : ∀ j ∈ items, Fits P depth j) :
      Fits P (depth + 1) (.array items)
  | object {depth : Nat} {members : List (String × Json)} (distinct : (members.map (·.1)).Nodup)
      (inner : ∀ m ∈ members, Fits P depth m.2) : Fits P (depth + 1) (.object members)

mutual

/-- The value with other numbers in the places of its numbers. -/
def mapNumbers (f : Number → Number) : Json → Json
  | .null => .null
  | .bool b => .bool b
  | .number n => .number (f n)
  | .string s => .string s
  | .array items => .array (mapItems f items)
  | .object members => .object (mapMembers f members)

def mapItems (f : Number → Number) : List Json → List Json
  | [] => []
  | j :: js => mapNumbers f j :: mapItems f js

def mapMembers (f : Number → Number) : List (String × Json) → List (String × Json)
  | [] => []
  | (k, j) :: ms => (k, mapNumbers f j) :: mapMembers f ms

end

mutual

theorem mapNumbers_id (j : Json) : j.mapNumbers id = j := by
  cases j with
  | array items => rw [mapNumbers, mapItems_id]
  | object members => rw [mapNumbers, mapMembers_id]
  | _ => rfl

theorem mapItems_id (items : List Json) : mapItems id items = items := by
  cases items with
  | nil => rfl
  | cons j js => rw [mapItems, mapNumbers_id, mapItems_id]

theorem mapMembers_id (members : List (String × Json)) : mapMembers id members = members := by
  cases members with
  | nil => rfl
  | cons m ms => rw [mapMembers, mapNumbers_id, mapMembers_id]

end

mutual

def document : Json → Document
  | .null => .null
  | .bool b => .bool b
  | .number n => .number (some n)
  | .string s => .string (some s)
  | .array items => .array (itemDocuments items)
  | .object members => .object (memberDocuments members)

def itemDocuments : List Json → List Document
  | [] => []
  | j :: js => document j :: itemDocuments js

def memberDocuments : List (String × Json) → List (Option String × Document)
  | [] => []
  | (k, j) :: ms => (some k, document j) :: memberDocuments ms

end

theorem memberValues_cons {depth : Nat} {key : String} {value : Json} {document : Document}
    (read : valueAt depth document = some value) (documents : List (Option String × Document))
    (before : List (String × Json)) :
    memberValues depth ((some key, document) :: documents) before =
      memberValues depth documents (insert key value before) := by
  simp [memberValues, read]

theorem insert_new {key : String} (value : Json) {members : List (String × Json)}
    (new : key ∉ members.map (·.1)) : insert key value members = members ++ [(key, value)] := by
  induction members with
  | nil => rfl
  | cons m ms ih =>
    rw [List.map_cons, List.mem_cons, not_or] at new
    rw [insert, if_neg (fun same => new.1 same.symm), ih new.2]
    rfl

theorem key_new {before behind : List (String × Json)} {k : String} {j : Json}
    (distinct : ((before ++ (k, j) :: behind).map (·.1)).Nodup) : k ∉ before.map (·.1) := by
  intro listed
  rw [List.map_append] at distinct
  exact (List.nodup_append.mp distinct).2.2 k listed k (by simp) rfl

theorem itemDocuments_eq_map (items : List Json) : itemDocuments items = items.map document := by
  induction items with
  | nil => rfl
  | cons j js ih => rw [itemDocuments, ih, List.map_cons]

theorem memberDocuments_eq_map (members : List (String × Json)) :
    memberDocuments members = members.map fun m => (some m.1, m.2.document) := by
  induction members with
  | nil => rfl
  | cons m ms ih => rw [memberDocuments, ih, List.map_cons]

theorem itemValues_documents {depth : Nat} {items : List Json}
    (values : ∀ j ∈ items, valueAt depth j.document = some j) :
    itemValues depth (itemDocuments items) = some items := by
  induction items with
  | nil => rfl
  | cons j js ih =>
    obtain ⟨here, rest⟩ := List.forall_mem_cons.mp values
    simp [itemDocuments, itemValues, here, ih rest]

theorem memberValues_documents {depth : Nat} (before : List (String × Json))
    {members : List (String × Json)} (distinct : ((before ++ members).map (·.1)).Nodup)
    (values : ∀ m ∈ members, valueAt depth m.2.document = some m.2) :
    memberValues depth (memberDocuments members) before = some (before ++ members) := by
  induction members generalizing before with
  | nil => simp [memberDocuments, memberValues]
  | cons m ms ih =>
    obtain ⟨here, rest⟩ := List.forall_mem_cons.mp values
    rw [memberDocuments, memberValues_cons here, insert_new _ (key_new distinct), ih _ _ rest]
    · simp
    · simpa using distinct

/-- The document of a value stands for it. -/
theorem Fits.valueAt_document {P : Number → Prop} {depth : Nat} {j : Json} (fits : Fits P depth j) :
    valueAt depth j.document = some j := by
  induction fits with
  | null | bool | number | string => rfl
  | array _ ih => simp [document, valueAt, itemValues_documents ih]
  | object distinct _ ih =>
    simp [document, valueAt, memberValues_documents [] distinct ih]

theorem mapItems_eq_map (f : Number → Number) (items : List Json) :
    mapItems f items = items.map (mapNumbers f) := by
  induction items with
  | nil => rfl
  | cons j js ih => rw [mapItems, ih, List.map_cons]

theorem mapMembers_eq_map (f : Number → Number) (members : List (String × Json)) :
    mapMembers f members = members.map fun m => (m.1, m.2.mapNumbers f) := by
  induction members with
  | nil => rfl
  | cons m ms ih => rw [mapMembers, ih, List.map_cons]

/-- Other numbers do not change the shape of a value. -/
theorem Fits.mapNumbers {P : Number → Prop} {depth : Nat} {j : Json} (fits : Fits P depth j)
    (f : Number → Number) : Fits (fun _ => True) depth (j.mapNumbers f) := by
  induction fits with
  | null => exact .null
  | bool b => exact .bool b
  | number _ => exact .number trivial
  | string s => exact .string s
  | array _ ih =>
    rw [Json.mapNumbers, mapItems_eq_map]
    refine .array fun j listed => ?_
    obtain ⟨i, there, rfl⟩ := List.mem_map.mp listed
    exact ih i there
  | object distinct _ ih =>
    rw [Json.mapNumbers, mapMembers_eq_map]
    refine .object ?_ fun m listed => ?_
    · rwa [List.map_map]
    · obtain ⟨m, there, rfl⟩ := List.mem_map.mp listed
      exact ih m there

/-- A number whose text is read as the number that a function gives. -/
def Rereads (f : Number → Number) (n : Number) : Prop := ReadsAs n (f n)

variable {f : Number → Number}

theorem newline_toList (level : Nat) :
    (newline level).toList = '\n' :: List.replicate (2 * level) ' ' := by
  simp [newline]

theorem newline_blank (level : Nat) : ∀ c ∈ (newline level).toList, isGap c = true := by
  intro c listed
  rw [newline_toList] at listed
  rcases List.mem_cons.mp listed with rfl | listed
  · rfl
  · rw [(List.mem_replicate.mp listed).2]
    rfl

theorem newline_apart (level : Nat) (cs : List Char) : Apart ((newline level).toList ++ cs) := by
  rw [newline_toList]
  exact apart_cons (by decide) _

theorem textAt_null (level : Nat) : (textAt level .null).toList = ['n', 'u', 'l', 'l'] := by
  change "null".toList = _
  simp

theorem textAt_true (level : Nat) : (textAt level (.bool true)).toList = ['t', 'r', 'u', 'e'] := by
  change "true".toList = _
  simp

theorem textAt_false (level : Nat) :
    (textAt level (.bool false)).toList = ['f', 'a', 'l', 's', 'e'] := by
  change "false".toList = _
  simp

theorem textAt_array_nil (level : Nat) : (textAt level (.array [])).toList = ['[', ']'] := by
  change "[]".toList = _
  simp

theorem textAt_object_nil (level : Nat) :
    (textAt level (.object [])).toList = ['\x7b', '\x7d'] := by
  change "\x7b\x7d".toList = _
  simp

theorem textAt_array (level : Nat) (j : Json) (js : List Json) :
    (textAt level (.array (j :: js))).toList =
      '[' :: ((newline (level + 1)).toList ++ ((textAt (level + 1) j).toList ++
        ((itemsAt (level + 1) js).toList ++ ((newline level).toList ++ [']'])))) := by
  change ("[" ++ newline (level + 1) ++ textAt (level + 1) j ++ itemsAt (level + 1) js ++
    newline level ++ "]").toList = _
  simp

theorem textAt_object (level : Nat) (k : String) (j : Json) (ms : List (String × Json)) :
    (textAt level (.object ((k, j) :: ms))).toList =
      '\x7b' :: ((newline (level + 1)).toList ++ ((quote k).toList ++ (':' :: ' ' ::
        ((textAt (level + 1) j).toList ++ ((membersAt (level + 1) ms).toList ++
          ((newline level).toList ++ ['\x7d'])))))) := by
  change ("\x7b" ++ newline (level + 1) ++ quote k ++ ": " ++ textAt (level + 1) j ++
    membersAt (level + 1) ms ++ newline level ++ "\x7d").toList = _
  simp

theorem itemsAt_cons (level : Nat) (j : Json) (js : List Json) :
    (itemsAt level (j :: js)).toList =
      ',' :: ((newline level).toList ++ ((textAt level j).toList ++ (itemsAt level js).toList)) := by
  change ("," ++ newline level ++ textAt level j ++ itemsAt level js).toList = _
  simp

theorem membersAt_cons (level : Nat) (k : String) (j : Json) (ms : List (String × Json)) :
    (membersAt level ((k, j) :: ms)).toList =
      ',' :: ((newline level).toList ++ ((quote k).toList ++ (':' :: ' ' ::
        ((textAt level j).toList ++ (membersAt level ms).toList)))) := by
  change ("," ++ newline level ++ quote k ++ ": " ++ textAt level j ++ membersAt level ms).toList = _
  simp

/-- A text begins neither with a gap nor with what closes an array. -/
theorem Fits.head {depth : Nat} {j : Json} (fits : Fits (Rereads f) depth j) (level : Nat) :
    ∃ c cs, (textAt level j).toList = c :: cs ∧ isGap c = false ∧ c ≠ ']' := by
  cases fits with
  | null => exact ⟨_, _, textAt_null level, by decide, by decide⟩
  | bool b =>
    cases b with
    | true => exact ⟨_, _, textAt_true level, by decide, by decide⟩
    | false => exact ⟨_, _, textAt_false level, by decide, by decide⟩
  | number reads =>
    rw [textAt]
    obtain ⟨negative, body, text, read⟩ := reads
    cases negative with
    | true => exact ⟨_, _, text, by decide, by decide⟩
    | false =>
      obtain ⟨c, cs, same, digit⟩ := readNumber_head read
      refine ⟨c, cs, text.trans same, isGap_of_numeral (isNumeral_of_digit digit), ?_⟩
      rintro rfl
      cases digit
  | string s =>
    rw [textAt]
    exact ⟨_, _, quote_toList s, by decide, by decide⟩
  | @array _ items inner =>
    cases items with
    | nil => exact ⟨_, _, textAt_array_nil level, by decide, by decide⟩
    | cons j js => exact ⟨_, _, textAt_array level j js, by decide, by decide⟩
  | @object _ members distinct inner =>
    cases members with
    | nil => exact ⟨_, _, textAt_object_nil level, by decide, by decide⟩
    | cons m ms => exact ⟨_, _, textAt_object level m.1 m.2 ms, by decide, by decide⟩

/-- The text of a value, behind a gap and before anything but a numeral, is read as the document of
this value, but for its numbers. -/
def ReadsAt (f : Number → Number) (level : Nat) (j : Json) : Prop :=
  ∀ fuel gap rest, (∀ c ∈ gap, isGap c = true) → Apart rest →
    (textAt level j).toList.length ≤ fuel →
    readValue fuel (gap ++ ((textAt level j).toList ++ rest)) = .ok ((j.mapNumbers f).document, rest)

theorem readsAt_null (level : Nat) : ReadsAt f level .null := by
  intro fuel gap rest blank _ enough
  rw [textAt_null] at enough ⊢
  obtain _ | fuel := fuel
  · simp at enough
  rw [readValue]
  dsimp only
  rw [List.cons_append, skipGap_append blank rfl]
  rfl

theorem readsAt_bool (level : Nat) (b : Bool) : ReadsAt f level (.bool b) := by
  intro fuel gap rest blank _ enough
  obtain _ | fuel := fuel
  · cases b
    · simp [textAt_false] at enough
    · simp [textAt_true] at enough
  rw [readValue]
  dsimp only
  cases b with
  | true =>
    rw [textAt_true, List.cons_append, skipGap_append blank rfl]
    rfl
  | false =>
    rw [textAt_false, List.cons_append, skipGap_append blank rfl]
    rfl

theorem readsAt_number {n : Number} (reads : Rereads f n) (level : Nat) :
    ReadsAt f level (.number n) := by
  intro fuel gap rest blank apart enough
  rw [textAt] at enough ⊢
  obtain _ | fuel := fuel
  · obtain ⟨negative, body, text, read⟩ := reads
    obtain ⟨c, cs, same, -⟩ := readNumber_head read
    rw [text, same] at enough
    cases negative <;> simp at enough
  exact readValue_number reads fuel blank apart

theorem readsAt_string (level : Nat) (s : String) : ReadsAt f level (.string s) := by
  intro fuel gap rest blank _ enough
  rw [textAt] at enough ⊢
  obtain _ | fuel := fuel
  · simp [quote_toList] at enough
  obtain ⟨behind, split, read⟩ := readString_quote s rest
  rw [split, readValue]
  dsimp only
  rw [skipGap_append blank rfl]
  simp only [read]
  rfl

theorem readItems_last {fuel : Nat} {cs rest behind : List Char} {document : Document}
    (read : readValue fuel cs = .ok (document, rest)) (closes : skipGap rest = ']' :: behind) :
    readItems (fuel + 1) cs = .ok ([document], behind) := by
  rw [readItems]
  simp only [read, bind, Except.bind, closes]
  rfl

theorem readItems_more {fuel : Nat} {cs rest behind rest' : List Char} {document : Document}
    {documents : List Document} (read : readValue fuel cs = .ok (document, rest))
    (goesOn : skipGap rest = ',' :: behind)
    (readRest : readItems fuel behind = .ok (documents, rest')) :
    readItems (fuel + 1) cs = .ok (document :: documents, rest') := by
  rw [readItems]
  simp only [read, bind, Except.bind, goesOn, readRest]
  rfl

theorem readItems_itemsAt {level : Nat} {j : Json} {js : List Json}
    (reads : ∀ j' ∈ j :: js, ReadsAt f level j') (outer fuel : Nat) {gap : List Char}
    (blank : ∀ c ∈ gap, isGap c = true) (rest : List Char)
    (enough : (textAt level j).toList.length + (itemsAt level js).toList.length < fuel) :
    readItems fuel (gap ++ ((textAt level j).toList ++ ((itemsAt level js).toList ++
      ((newline outer).toList ++ ']' :: rest)))) =
        .ok (itemDocuments (mapItems f (j :: js)), rest) := by
  induction js generalizing j fuel gap with
  | nil =>
    obtain _ | fuel := fuel
    · omega
    have read := reads j (by simp) fuel gap ((newline outer).toList ++ ']' :: rest) blank
      (newline_apart outer _) (by omega)
    exact readItems_last read (skipGap_append (newline_blank outer) rfl rest)
  | cons j' js ih =>
    obtain _ | fuel := fuel
    · omega
    rw [itemsAt_cons] at enough ⊢
    simp only [List.length_cons, List.length_append] at enough
    simp only [List.cons_append, List.append_assoc]
    have readRest := ih (j := j')
      (fun i listed => reads i (List.mem_cons_of_mem j listed)) fuel (newline_blank level) (by omega)
    exact readItems_more (reads j (by simp) fuel gap _ blank (apart_cons (c := ',') (by decide) _)
      (by omega)) rfl readRest

theorem readsAt_array {depth level : Nat} {items : List Json}
    (fits : ∀ j ∈ items, Fits (Rereads f) depth j)
    (reads : ∀ j ∈ items, ReadsAt f (level + 1) j) : ReadsAt f level (.array items) := by
  intro fuel gap rest blank _ enough
  cases items with
  | nil =>
    rw [textAt_array_nil] at enough ⊢
    obtain _ | fuel := fuel
    · simp at enough
    rw [readValue]
    dsimp only
    rw [List.cons_append, skipGap_append blank rfl]
    rfl
  | cons j js =>
    rw [textAt_array] at enough ⊢
    obtain _ | fuel := fuel
    · simp at enough
    simp only [List.length_cons, List.length_append, List.length_nil] at enough
    have read := readItems_itemsAt reads level fuel (List.forall_mem_nil _) rest (by omega)
    obtain ⟨c, cs, head, solid, other⟩ := (fits j (by simp)).head (level + 1)
    rw [readValue]
    dsimp only
    rw [List.cons_append, skipGap_append blank rfl]
    simp only [List.append_assoc, List.cons_append, List.nil_append, head] at read ⊢
    rw [skipGap_append (newline_blank _) solid]
    split
    · rename_i same
      cases same
      exact absurd rfl other
    · simp only [read]
      rfl

theorem readMembers_last {fuel : Nat} {cs body behind rest rest' : List Char} {key : Option String}
    {document : Document} (opens : skipGap cs = '"' :: body)
    (readKey : readString? (some []) none body = some (key, ':' :: behind))
    (read : readValue fuel behind = .ok (document, rest)) (closes : skipGap rest = '\x7d' :: rest') :
    readMembers (fuel + 1) cs = .ok ([(key, document)], rest') := by
  have colon : skipGap (':' :: behind) = ':' :: behind := rfl
  rw [readMembers, opens]
  simp only [readKey, colon, read, bind, Except.bind, closes]
  rfl

theorem readMembers_more {fuel : Nat} {cs body behind rest rest' rest'' : List Char}
    {key : Option String} {document : Document} {documents : List (Option String × Document)}
    (opens : skipGap cs = '"' :: body)
    (readKey : readString? (some []) none body = some (key, ':' :: behind))
    (read : readValue fuel behind = .ok (document, rest)) (goesOn : skipGap rest = ',' :: rest')
    (readRest : readMembers fuel rest' = .ok (documents, rest'')) :
    readMembers (fuel + 1) cs = .ok ((key, document) :: documents, rest'') := by
  have colon : skipGap (':' :: behind) = ':' :: behind := rfl
  rw [readMembers, opens]
  simp only [readKey, colon, read, bind, Except.bind, goesOn, readRest]
  rfl

theorem readMembers_membersAt {level : Nat} {k : String} {j : Json}
    {ms : List (String × Json)} (reads : ∀ m ∈ (k, j) :: ms, ReadsAt f level m.2)
    (outer fuel : Nat) {gap : List Char} (blank : ∀ c ∈ gap, isGap c = true) (rest : List Char)
    (enough : (textAt level j).toList.length + (membersAt level ms).toList.length < fuel) :
    readMembers fuel (gap ++ ((quote k).toList ++ (':' :: ' ' ::
      ((textAt level j).toList ++ ((membersAt level ms).toList ++
        ((newline outer).toList ++ '\x7d' :: rest)))))) =
          .ok (memberDocuments (mapMembers f ((k, j) :: ms)), rest) := by
  -- induction on the members behind the first; to read one takes a single step of the fuel
  have here : ReadsAt f level j := reads (k, j) (by simp)
  induction ms generalizing k j fuel gap with
  | nil =>
    obtain _ | fuel := fuel
    · omega
    obtain ⟨body, split, readKey⟩ := readString_quote k (':' :: ' ' ::
      ((textAt level j).toList ++ ((newline outer).toList ++ '\x7d' :: rest)))
    have read := here fuel [' '] ((newline outer).toList ++ '\x7d' :: rest)
      (List.all_eq_true.mp rfl) (newline_apart outer _) (by omega)
    rw [show (membersAt level []).toList = [] from rfl, List.nil_append, split]
    exact readMembers_last (skipGap_append blank rfl body) readKey read
      (skipGap_append (newline_blank outer) rfl rest)
  | cons m ms ih =>
    obtain _ | fuel := fuel
    · omega
    obtain ⟨k', j'⟩ := m
    rw [membersAt_cons] at enough ⊢
    simp only [List.length_cons, List.length_append] at enough
    simp only [List.cons_append, List.append_assoc]
    obtain ⟨body, split, readKey⟩ := readString_quote k _
    have readRest := ih (k := k') (j := j')
      (fun m listed => reads m (List.mem_cons_of_mem _ listed)) fuel (newline_blank level) (by omega)
      (reads (k', j') (by simp))
    rw [split]
    exact readMembers_more (skipGap_append blank rfl body) readKey
      (here fuel [' '] _ (List.all_eq_true.mp rfl) (apart_cons (c := ',') (by decide) _) (by omega))
      rfl readRest

theorem readsAt_object {level : Nat} {members : List (String × Json)}
    (reads : ∀ m ∈ members, ReadsAt f (level + 1) m.2) : ReadsAt f level (.object members) := by
  intro fuel gap rest blank _ enough
  cases members with
  | nil =>
    rw [textAt_object_nil] at enough ⊢
    obtain _ | fuel := fuel
    · simp at enough
    rw [readValue]
    dsimp only
    rw [List.cons_append, skipGap_append blank rfl]
    rfl
  | cons m ms =>
    obtain ⟨k, j⟩ := m
    rw [textAt_object] at enough ⊢
    obtain _ | fuel := fuel
    · simp at enough
    simp only [List.length_cons, List.length_append, List.length_nil] at enough
    have read := readMembers_membersAt reads level fuel (List.forall_mem_nil _) rest (by omega)
    rw [readValue]
    dsimp only
    rw [List.cons_append, skipGap_append blank rfl]
    simp only [quote_toList, List.append_assoc, List.cons_append, List.nil_append] at read ⊢
    rw [skipGap_append (newline_blank _) rfl]
    split
    · rename_i same
      cases same
    · simp only [read]
      rfl

/-- The text of a value is read as the document of this value, but for its numbers. -/
theorem Fits.readsAt {depth : Nat} {j : Json} (fits : Fits (Rereads f) depth j) (level : Nat) :
    ReadsAt f level j := by
  induction fits generalizing level with
  | null => exact readsAt_null level
  | bool b => exact readsAt_bool level b
  | number reads => exact readsAt_number reads level
  | string s => exact readsAt_string level s
  | array inner ih => exact readsAt_array inner fun j listed => ih j listed (level + 1)
  | object _ _ ih => exact readsAt_object fun m listed => ih m listed (level + 1)

/-- What is printed is read as the document of what it was, but for the numbers, also with a gap
behind it. -/
theorem document_reprinted {depth : Nat} {j : Json} (fits : Fits (Rereads f) depth j) {gap : String}
    (blank : ∀ c ∈ gap.toList, isGap c = true) :
    Document.ofText (j.pretty ++ gap) = .ok (j.mapNumbers f).document := by
  have apart : Apart gap.toList := by
    intro c head
    cases numeral : isNumeral c with
    | false => rfl
    | true => simpa [isGap_of_numeral numeral] using blank c (List.mem_of_mem_head? head)
  have nothing : skipGap gap.toList = [] := by
    rw [skipGap, ← List.append_nil gap.toList, List.dropWhile_append_of_pos blank]
    rfl
  have read := fits.readsAt 0 (2 * (j.pretty ++ gap).toList.length + 2) [] gap.toList (by simp) apart
    (by simp [pretty]; omega)
  rw [List.nil_append, ← String.toList_append] at read
  change readValue _ (j.pretty ++ gap).toList = _ at read
  unfold Document.ofText
  dsimp only
  rw [read]
  simp only [nothing]

/-- What is printed is read again, also with a gap behind it. -/
theorem ofText_reprinted {j : Json} (fits : Fits (Rereads f) maxDepth j) {gap : String}
    (blank : ∀ c ∈ gap.toList, isGap c = true) :
    ofText (j.pretty ++ gap) = .ok (j.mapNumbers f) := by
  have value := (fits.mapNumbers f).valueAt_document
  unfold ofText Decoder.ofText
  rw [document_reprinted fits blank]
  simp only [Decoder.value, value]

/-- What is printed is read back. -/
theorem ofText_pretty {j : Json} (fits : Fits ReadBack maxDepth j) {gap : String}
    (blank : ∀ c ∈ gap.toList, isGap c = true) : ofText (j.pretty ++ gap) = .ok j := by
  have read := ofText_reprinted (f := id) fits blank
  rwa [mapNumbers_id] at read

end FixGrader.Json
