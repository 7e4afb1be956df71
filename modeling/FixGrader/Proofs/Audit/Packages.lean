import FixGrader.Proofs.Json.Records
import FixGrader.Proofs.Rules.Layering
import FixGrader.Proofs.Stage.Reports
/-!
# The packages of an audit report

A report that is accepted gives one package for each name among its entries, in the ascending order
of the names, with the severity and the title that the last entry of the name tells. So it does not
matter in which order the entries are written. The audit stage makes one issue of each package.
-/
namespace FixGrader
open Json

namespace NameTable
variable {α : Type}

theorem get?_foldl (l : List (String × α)) (t : NameTable α) (name : String) :
    (l.foldl (fun t (name, value) => t.insert name value) t).get? name =
      (lastUnder? name l).or (t.get? name) := by
  induction l generalizing t with
  | nil => rfl
  | cons e l ih =>
    rw [List.foldl_cons, ih, get?_insert, lastUnder?_cons, Option.or_assoc]
    by_cases same : e.1 = name
    · simp [same]
    · simp [same, Ne.symm same]

/-- A table made of a list holds the last value of each name. -/
theorem get?_ofList (l : List (String × α)) (name : String) :
    (ofList l).get? name = lastUnder? name l := by
  rw [ofList, get?_foldl]
  exact Option.or_none

theorem exists_ofList_iff {l : List (String × α)} {name : String} :
    (∃ value, (name, value) ∈ (ofList l).entries) ↔ name ∈ l.map (·.1) := by
  rw [← lastUnder?_isSome, Option.isSome_iff_exists]
  simp only [← get?_eq_some_iff, get?_ofList]

end NameTable

namespace Audit

def entriesOf (report : Document) : List (Option String × Document) :=
  match report.part? 0 "vulnerabilities" with
  | some (.object entries) => entries
  | _ => []

def severityOf (word : String) : Severity :=
  if Text.lower word ∈ ["info", "low"] then .low
  else if Text.lower word ∈ ["high", "critical", "crit", "error"] then .high
  else .medium

/-- The title of an entry: its own, or the first one among what it came through. -/
def titleOf (entry : Document) : Option String :=
  (entry.text? 1 "title").or
    ((entry.list 2 "via").findSome? fun v => (v.member? "title").bind Document.string?)

/-- An entry tells the severity and the title of a package. -/
structure Tells (entry : Document) (p : Package) : Prop where
  severity : ∃ word, entry.text? 0 "severity" = some word ∧ p.severity = severityOf word
  title : p.title = titleOf entry

/-- Some packages are those of some entries: one for each name, ascending, as the last entry of the
name tells. -/
structure Lists (entries : List (Option String × Document)) (packages : List Package) : Prop where
  ascending : packages.Pairwise (·.name < ·.name)
  names : ∀ key, key ∈ entries.map (·.1) ↔ ∃ p ∈ packages, key = some p.name
  tells : ∀ p ∈ packages, ∃ entry, lastUnder? (some p.name) entries = some entry ∧ Tells entry p

theorem Tells.unique {entry : Document} {p p' : Package} (tells : Tells entry p)
    (tells' : Tells entry p') (same : p.name = p'.name) : p = p' := by
  obtain ⟨word, written, severity⟩ := tells.severity
  obtain ⟨word', written', severity'⟩ := tells'.severity
  have words : word = word' := Option.some.inj (written.symm.trans written')
  subst words
  cases p
  cases p'
  simp only [Package.mk.injEq]
  exact ⟨same, severity.trans severity'.symm, tells.title.trans tells'.title.symm⟩

section Lists
variable {entries entries' : List (Option String × Document)} {packages packages' : List Package}

theorem Lists.subset (lists : Lists entries packages) (lists' : Lists entries' packages')
    (same : ∀ key, lastUnder? key entries' = lastUnder? key entries) : packages ⊆ packages' := by
  intro p listed
  obtain ⟨entry, last, tells⟩ := lists.tells p listed
  have key : some p.name ∈ entries'.map (·.1) := by
    rw [← lastUnder?_isSome, same, last]
    rfl
  obtain ⟨p', listed', name⟩ := (lists'.names _).mp key
  obtain ⟨entry', last', tells'⟩ := lists'.tells p' listed'
  rw [← name, same, last] at last'
  cases last'
  rwa [tells.unique tells' (Option.some.inj name)]

/-- Only the last entry of each name counts. -/
theorem Lists.unique (lists : Lists entries packages) (lists' : Lists entries' packages')
    (same : ∀ key, lastUnder? key entries' = lastUnder? key entries) : packages' = packages := by
  have distinct : ∀ {packages : List Package}, packages.Pairwise (·.name < ·.name) →
      packages.Nodup := by
    intro packages ascending
    refine ascending.imp ?_
    intro a b below same
    exact String.lt_irrefl b.name (same ▸ below)
  have members : packages'.Perm packages :=
    (List.perm_ext_iff_of_nodup (distinct lists'.ascending) (distinct lists.ascending)).mpr
      fun p => ⟨fun listed => lists'.subset lists (fun key => (same key).symm) listed,
        fun listed => lists.subset lists' same listed⟩
  exact List.Perm.eq_of_pairwise
    (fun _ _ _ _ below above => absurd above (String.lt_asymm below))
    lists'.ascending lists.ascending members

end Lists

theorem findSome?_of_forall₂ {α β γ : Type} {f : α → Option γ} {g : β → Option γ} {l : List α}
    {l' : List β} (each : List.Forall₂ (fun a b => f a = g b) l l') :
    l.findSome? f = l'.findSome? g := by
  induction each with
  | nil => rfl
  | cons first _ ih => rw [List.findSome?_cons, List.findSome?_cons, first, ih]

/-- What comes first among the titles of what brought an entry in. -/
theorem via_titles {slot : Decoder.Slot} {via : List Json}
    (h : slot.orElse [] (.list .value) = some via) :
    via.findSome? (fun v => (v.get? "title").bind Json.string?) =
      (slot.part?.elim [] Document.items).findSome? fun v =>
        (v.member? "title").bind Document.string? := by
  obtain ⟨depth, each⟩ := Decoder.orElse_list h
  exact findSome?_of_forall₂ (each.flip.imp fun j v value => string?_get? value "title")

theorem severity_eq (word : String) :
    (Severity.ofWord? word).getD .medium = severityOf word := by
  unfold Severity.ofWord? severityOf
  simp only [List.contains_iff_mem]
  by_cases low : Text.lower word ∈ ["info", "low"]
  · simp only [low, if_true, Option.getD_some]
  · by_cases medium : Text.lower word ∈ ["medium", "moderate", "med", "warning", "warn"]
    · have apart : ∀ w ∈ ["medium", "moderate", "med", "warning", "warn"],
          w ∉ ["high", "critical", "crit", "error"] := by decide
      simp only [low, medium, apart _ medium, if_true, if_false, Option.getD_some]
    · simp only [low, medium, if_false]
      split <;> rfl

theorem Entry.decoder_tells {depth : Nat} {entry : Document} {e : Entry}
    (h : Entry.decoder depth entry = some e) (name : String) : Tells entry (e.package name) := by
  obtain ⟨slots, built, parts⟩ := Decoder.record_parts h
  simp only [List.mapIdx_cons, List.mapIdx_nil, List.map_eq_cons_iff, List.map_eq_nil_iff] at parts
  obtain ⟨severity, -, rfl, word, title, -, rfl, own, via, -, rfl, through, rfl⟩ := parts
  obtain ⟨w, read, built⟩ := Option.bind_eq_some_iff.mp built
  obtain ⟨t, read', built⟩ := Option.bind_eq_some_iff.mp built
  obtain ⟨v, read'', same⟩ := Option.bind_eq_some_iff.mp built
  cases same
  have severity_read := Decoder.string_reads.required read
  have title_read := Decoder.string_reads.orElseNone read'
  rw [word] at severity_read
  rw [own] at title_read
  refine ⟨⟨w, severity_read, severity_eq w⟩, ?_⟩
  change t.or _ = _
  rw [titleOf, via_titles read'', through, ← title_read]
  rfl

/-- An entry with its key is read as an entry with its name. -/
theorem member_eq_some_iff {depth : Nat} {m : Option String × Document} {n : String × Entry} :
    (do return (← m.1, ← Entry.decoder depth m.2) : Option (String × Entry)) = some n ↔
      m.1 = some n.1 ∧ Entry.decoder depth m.2 = some n.2 := by
  obtain ⟨key, doc⟩ := m
  obtain ⟨name, e⟩ := n
  cases key with
  | none => simp
  | some key => cases Entry.decoder depth doc <;> simp

section Entries
variable {depth : Nat} {entries : List (Option String × Document)} {table : NameTable Entry}

theorem entriesDecoder_eq_some_iff :
    entriesDecoder (depth + 1) (.object entries) = some table ↔
      ∃ l, table = .ofList l ∧ List.Forall₂ (fun m n => m.1 = some n.1 ∧
        Entry.decoder depth m.2 = some n.2) entries l := by
  change (entries.mapM _ : Option (List (String × Entry))).map NameTable.ofList = some table ↔ _
  simp only [Option.map_eq_some_iff, Decoder.mapM_eq_some_iff, member_eq_some_iff]
  exact exists_congr fun l => and_comm.trans (and_congr_left' eq_comm)

/-- What is read of the entries are their packages. -/
theorem entriesDecoder_lists (h : entriesDecoder (depth + 1) (.object entries) = some table) :
    Lists entries (table.entries.map fun (name, e) => e.package name) := by
  obtain ⟨l, rfl, each⟩ := entriesDecoder_eq_some_iff.mp h
  have found : ∀ name, Option.Rel (fun entry e => Entry.decoder depth entry = some e)
      (lastUnder? (some name) entries) ((NameTable.ofList l).get? name) := by
    intro name
    rw [NameTable.get?_ofList]
    exact lastUnder?_rel (Option.some_injective _) each name
  have keys : entries.map (·.1) = l.map fun n => some n.1 := by
    rw [← List.forall₂_eq_eq_eq, List.forall₂_map_left_iff, List.forall₂_map_right_iff]
    exact each.imp fun _ _ read => read.1
  refine ⟨List.pairwise_map.mpr (NameTable.ofList l).ascending, fun key => ?_, fun p listed => ?_⟩
  · rw [keys]
    constructor
    · intro written
      obtain ⟨n, listed, rfl⟩ := List.mem_map.mp written
      obtain ⟨e, entered⟩ := NameTable.exists_ofList_iff.mpr (List.mem_map_of_mem listed)
      exact ⟨e.package n.1, List.mem_map.mpr ⟨_, entered, rfl⟩, rfl⟩
    · rintro ⟨p, listed, rfl⟩
      obtain ⟨⟨name, e⟩, entered, rfl⟩ := List.mem_map.mp listed
      obtain ⟨n, among, same⟩ := List.mem_map.mp (NameTable.exists_ofList_iff.mp ⟨e, entered⟩)
      exact List.mem_map.mpr ⟨n, among, congrArg some same⟩
  · obtain ⟨⟨name, e⟩, entered, rfl⟩ := List.mem_map.mp listed
    have last := found name
    rw [NameTable.get?_eq_some_iff.mpr entered] at last
    cases written : lastUnder? (some name) entries with
    | none =>
      rw [written] at last
      cases last
    | some entry =>
      rw [written] at last
      cases last with
      | some decoded => exact ⟨entry, written, Entry.decoder_tells decoded name⟩

theorem entriesDecoder_perm {entries' : List (Option String × Document)}
    (permuted : entries'.Perm entries) (h : entriesDecoder depth (.object entries) = some table) :
    ∃ table', entriesDecoder depth (.object entries') = some table' := by
  cases depth with
  | zero => cases h
  | succ depth =>
    obtain ⟨l, -, each⟩ := entriesDecoder_eq_some_iff.mp h
    obtain ⟨l', each', -⟩ := List.perm_comp_forall₂ permuted each
    exact ⟨.ofList l', entriesDecoder_eq_some_iff.mpr ⟨l', rfl, each'⟩⟩

end Entries

def Report.packages (report : Report) : List Package :=
  report.vulnerabilities.entries.map fun (name, e) => e.package name

/-- Only a null counts as no error. -/
theorem refusal_eq_none_iff {slot : Decoder.Slot} {refusal : Option Refusal}
    (h : slot.orElse none (Decoder.nullable Refusal.decoder) = some refusal) :
    refusal = none ↔ ∀ e, slot.part? = some e → e = .null := by
  obtain ⟨absent, rfl⟩ | ⟨depth, doc, part, decoded⟩ := Decoder.orElse_found h
  · simp [absent]
  · rw [part]
    obtain ⟨rfl, rfl⟩ | ⟨refusal, rfl, refusing⟩ := Decoder.nullable_eq_some decoded
    · simp
    · have shown : doc ≠ .null := by
        rintro rfl
        cases depth <;> cases refusing
      simp [shown]

theorem Report.decoder_lists {depth : Nat} {doc : Document} {report : Report}
    (h : Report.decoder depth doc = some report) : Lists (entriesOf doc) report.packages ∧
      (report.refusal = none ↔ ∀ e, doc.part? 1 "error" = some e → e = .null) := by
  obtain ⟨slots, built, parts⟩ := Decoder.record_parts h
  simp only [List.mapIdx_cons, List.mapIdx_nil, List.map_eq_cons_iff, List.map_eq_nil_iff] at parts
  obtain ⟨vulnerabilities, -, rfl, listed, refusal, -, rfl, refused, rfl⟩ := parts
  obtain ⟨table, read, built⟩ := Option.bind_eq_some_iff.mp built
  obtain ⟨r, read', same⟩ := Option.bind_eq_some_iff.mp built
  cases same
  constructor
  · unfold entriesOf
    rw [← listed]
    obtain ⟨absent, rfl⟩ | ⟨depth, doc, part, decoded⟩ := Decoder.orElse_found read
    · rw [absent]
      exact ⟨.nil, fun key => by simp [packages, NameTable.empty], fun p listed => by cases listed⟩
    · rw [part]
      cases depth with
      | zero => cases doc <;> cases decoded
      | succ depth =>
        cases doc with
        | object entries => exact entriesDecoder_lists decoded
        | _ => cases decoded
  · rw [← refused]
    exact refusal_eq_none_iff read'

section Members
variable {depth : Nat} {members entries others : List (Option String × Document)}

/-- The fields of a report of which one member holds the entries, wherever it stands. -/
theorem slots_eq_some_iff
    (order : members.Perm ((some "vulnerabilities", .object entries) :: others))
    {slots : List Decoder.Slot} :
    Decoder.objectSlots ["vulnerabilities", "error"] depth members = some slots ↔
      (others.any (·.1.isNone) = false ∧ some "vulnerabilities" ∉ others.map (·.1)) ∧
      ∃ refusal, Decoder.slotNamed depth others "error" = some refusal ∧
        slots = [.found depth (.object entries), refusal] := by
  have other : Decoder.slotNamed depth ((some "vulnerabilities", .object entries) :: others)
      "error" = Decoder.slotNamed depth others "error" := Decoder.slotNamed_cons_other (by simp)
  rw [Decoder.objectSlots_perm order, Decoder.objectSlots_eq_some_iff]
  constructor
  · rintro ⟨named, each⟩
    obtain ⟨first, _, read, rest, rfl⟩ := List.forall₂_cons_left_iff.mp each
    obtain ⟨refusal, _, read', none, rfl⟩ := List.forall₂_cons_left_iff.mp rest
    obtain rfl := List.forall₂_nil_left_iff.mp none
    obtain ⟨once, rfl⟩ := Decoder.slotNamed_cons_self.mp read
    exact ⟨⟨named, once⟩, refusal, other ▸ read', rfl⟩
  · rintro ⟨⟨named, once⟩, refusal, read, rfl⟩
    exact ⟨named, .cons (Decoder.slotNamed_cons_self.mpr ⟨once, rfl⟩)
      (.cons (other.trans read) .nil)⟩

theorem Report.decoder_eq_some_iff
    (order : members.Perm ((some "vulnerabilities", .object entries) :: others)) {report : Report} :
    Report.decoder (depth + 1) (.object members) = some report ↔
      (others.any (·.1.isNone) = false ∧ some "vulnerabilities" ∉ others.map (·.1)) ∧
      ∃ refusal, Decoder.slotNamed depth others "error" = some refusal ∧
        entriesDecoder depth (.object entries) = some report.vulnerabilities ∧
        refusal.orElse none (Decoder.nullable Refusal.decoder) = some report.refusal := by
  have built : ∀ refusal : Decoder.Slot, (do return {
      vulnerabilities := ← entriesDecoder depth (.object entries)
      refusal := ← refusal.orElse none (Decoder.nullable Refusal.decoder) } : Option Report) =
        some report ↔ entriesDecoder depth (.object entries) = some report.vulnerabilities ∧
        refusal.orElse none (Decoder.nullable Refusal.decoder) = some report.refusal := by
    intro refusal
    obtain ⟨vulnerabilities, r⟩ := report
    cases entriesDecoder depth (.object entries) <;>
      cases refusal.orElse none (Decoder.nullable Refusal.decoder) <;> simp
  change (Decoder.objectSlots _ depth members).bind _ = some report ↔ _
  simp only [Option.bind_eq_some_iff, slots_eq_some_iff order]
  constructor
  · rintro ⟨_, ⟨named, refusal, read, rfl⟩, h⟩
    exact ⟨named, refusal, read, (built refusal).mp h⟩
  · rintro ⟨named, refusal, read, h⟩
    exact ⟨_, ⟨named, refusal, read, rfl⟩, (built refusal).mpr h⟩

end Members

section Reading
variable {stdout : String} {doc : Document} {packages : List Package}

/-- A text is accepted if a report without a refusal is read off its document. -/
theorem readReport_eq_ok_iff : readReport stdout = .ok packages ↔
    ∃ doc report, Document.ofText (Text.trim stdout) = .ok doc ∧
      Report.decoder maxDepth doc = some report ∧ report.refusal = none ∧
      packages = report.packages := by
  have read : readReport stdout = .ok packages ↔
      ∃ report, Report.decoder.ofText (Text.trim stdout) = .ok report ∧ report.refusal = none ∧
        packages = report.packages := by
    unfold readReport
    dsimp only
    split
    · rename_i empty
      simp [Decoder.ofText_empty empty]
    · cases Report.decoder.ofText (Text.trim stdout) with
      | error e => simp
      | ok report => cases refused : report.refusal <;> simp [refused, Report.packages, eq_comm]
  simp only [read, Decoder.ofText_eq_ok_iff]
  constructor
  · rintro ⟨report, ⟨doc, parsed, decoded⟩, accepting, listed⟩
    exact ⟨doc, report, parsed, decoded, accepting, listed⟩
  · rintro ⟨doc, report, parsed, decoded, accepting, listed⟩
    exact ⟨report, ⟨doc, parsed, decoded⟩, accepting, listed⟩

/-- A text that is not accepted is malformed. -/
theorem readReport_error {failure : Tool.Failure} (h : readReport stdout = .error failure) :
    ∃ message, failure = .malformed "npm audit" message := by
  unfold readReport at h
  dsimp only at h
  split at h
  · cases h
    exact ⟨_, rfl⟩
  · split at h
    · cases h
      exact ⟨_, rfl⟩
    · split at h
      · cases h
        exact ⟨_, rfl⟩
      · cases h

/-- The same report with its members and its entries in another order. The entries may be in any
order if no name is repeated; else the last one of each name has to stay the last one. -/
inductive Reordered : Document → Document → Prop
  | intro {members members' entries entries' others : List (Option String × Document)}
    (order : members.Perm ((some "vulnerabilities", .object entries) :: others))
    (order' : members'.Perm ((some "vulnerabilities", .object entries') :: others))
    (permuted : entries'.Perm entries)
    (last : (entries.map (·.1)).Nodup ∨ ∀ key, lastUnder? key entries' = lastUnder? key entries) :
    Reordered (.object members) (.object members')

theorem readReport_reordered {stdout' : String} {doc' : Document}
    (accepted : readReport stdout = .ok packages)
    (parsed : Document.ofText (Text.trim stdout) = .ok doc)
    (parsed' : Document.ofText (Text.trim stdout') = .ok doc') (reordered : Reordered doc doc') :
    readReport stdout' = .ok packages := by
  obtain ⟨_, report, parsed'', decoded, accepting, rfl⟩ := readReport_eq_ok_iff.mp accepted
  obtain rfl := Except.ok.inj (parsed.symm.trans parsed'')
  obtain ⟨order, order', permuted, last⟩ := reordered
  have last' := last.elim (fun distinct key => lastUnder?_perm distinct permuted) id
  change Report.decoder (126 + 1) _ = some report at decoded
  obtain ⟨named, refusal, read, listed, refused⟩ := (Report.decoder_eq_some_iff order).mp decoded
  obtain ⟨table', listed'⟩ := entriesDecoder_perm permuted listed
  have decoded' : Report.decoder maxDepth _ = some ⟨table', report.refusal⟩ :=
    (Report.decoder_eq_some_iff order').mpr ⟨named, refusal, read, listed', refused⟩
  refine readReport_eq_ok_iff.mpr ⟨_, _, parsed', decoded', accepting, ?_⟩
  exact (Lists.unique (entriesDecoder_lists listed) (entriesDecoder_lists listed') last').symm

end Reading

/-- An accepted report gives one package for each name among its entries, as the last one of the
name tells it, in the ascending order of the names, in whatever order the entries are written. The
stage makes one issue of each package, in this order. -/
theorem packages_of_report {stdout : String} {packages : List Package}
    (accepted : readReport stdout = .ok packages) :
    (∃ report, Document.ofText (Text.trim stdout) = .ok report ∧
      (∀ e, report.part? 1 "error" = some e → e = .null) ∧
      Lists (entriesOf report) packages ∧
      ∀ stdout' report', Document.ofText (Text.trim stdout') = .ok report' →
        Reordered report report' → readReport stdout' = .ok packages) ∧
    ∀ runner settings ws w, AuditStage.Answered runner settings ws w stdout →
      ∃ o, ((AuditStage.run runner settings (some ws)).run w).1 = .ok o ∧
        o.issues = packages.map fun p => {
          severity := p.severity
          message := p.title.elim (p.name ++ " has known vulnerabilities") (p.name ++ ": " ++ ·)
          detail := .dependency p.name p.title } := by
  constructor
  · obtain ⟨doc, report, parsed, decoded, accepting, rfl⟩ := readReport_eq_ok_iff.mp accepted
    obtain ⟨lists, refusal⟩ := Report.decoder_lists decoded
    exact ⟨doc, parsed, refusal.mp accepting, lists,
      fun stdout' doc' parsed' => readReport_reordered accepted parsed parsed'⟩
  · intro runner settings ws w answered
    have value := AuditStage.run_answered answered
    rw [accepted] at value
    refine ⟨_, value, ?_⟩
    rw [AuditStage.outcomeOfReport, AuditStage.outcomeOf_issues]
    refine List.map_congr_left fun p _ => ?_
    cases p with
    | mk name severity title => cases title <;> rfl

def repeatedText : String :=
  "\x7b\"vulnerabilities\":\x7b\"q\":\x7b\"severity\":\"low\"\x7d," ++
    "\"p\":\x7b\"severity\":\"CRIT\",\"via\":[\"q\",\x7b\"title\":\"t\"\x7d]\x7d," ++
    "\"q\":[\"?\"]\x7d\x7d"

/-- A run of the stage in which the auditor writes this report has an issue for each package. -/
theorem packages_of_report_repeated :
    (∃ report, Document.ofText (Text.trim repeatedText) = .ok report ∧
      Lists (entriesOf report) [⟨"p", .high, some "t"⟩, ⟨"q", .medium, none⟩]) ∧
    ∃ o, ((AuditStage.run (reportingTools "" repeatedText) .standard (some equippedFiles)).run
        equippedWorkspace).1 = .ok o ∧
      o.issues = [⟨.high, "p: t", .dependency "p" (some "t")⟩,
        ⟨.medium, "q has known vulnerabilities", .dependency "q" none⟩] := by
  have accepted : readReport repeatedText = .ok [⟨"p", .high, some "t"⟩, ⟨"q", .medium, none⟩] := by
    decide +kernel
  obtain ⟨lists, stage⟩ := packages_of_report accepted
  refine ⟨lists.imp fun report h => ⟨h.1, h.2.2.1⟩, ?_⟩
  obtain ⟨o, ran, issues⟩ := stage _ _ _ _ (AuditStage.answered_reporting "" repeatedText)
  refine ⟨o, ran, issues.trans ?_⟩
  decide +kernel

end Audit

end FixGrader
