import FixGrader.Proofs.Audit.Packages
import FixGrader.Proofs.Stage.Charge
/-!
# Output of the auditor that is not a report

A report is an object without an error. Any other text is malformed, and the stage gives a part of
its points for it, but for a few arrays: what is read as a record may also be written as an array of
its fields, so that an array is taken for a report if it holds nothing, or the entries, or the
entries and a null where the error would be.
-/
namespace FixGrader.Audit
open Json

/-- A text that is not an object, or an object with an error that is not null. -/
def Unusable (stdout : String) : Prop :=
  ∀ members, Document.ofText (Text.trim stdout) = .ok (.object members) →
    ∃ e, (some "error", e) ∈ members ∧ e ≠ .null

/-- An array of the fields of a report without an error. -/
def Positional (stdout : String) : Prop :=
  ∃ items, Document.ofText (Text.trim stdout) = .ok (.array items) ∧
    (items = [] ∨ ∃ entries table, entriesDecoder (maxDepth - 1) entries = some table ∧
      (items = [entries] ∨ items = [entries, .null]))

/-- An error is not overlooked in an object. -/
theorem refusal_of_error {depth : Nat} {members : List (Option String × Document)} {report : Report}
    (h : Report.decoder depth (.object members) = some report) {e : Document}
    (written : (some "error", e) ∈ members) (shown : e ≠ .null) : report.refusal ≠ none := by
  cases depth with
  | zero => cases h
  | succ depth =>
    obtain ⟨slots, named, -⟩ := Option.bind_eq_some_iff.mp h
    have last := Decoder.lastUnder?_of_objectSlots named (by simp) written
    intro accepting
    exact shown ((Report.decoder_lists h).2.mp accepting e last)

/-- An array is a report without a refusal exactly in three shapes. -/
theorem Report.decoder_array_iff {depth : Nat} {items : List Document} :
    (∃ report, Report.decoder (depth + 1) (.array items) = some report ∧ report.refusal = none) ↔
      items = [] ∨ ∃ entries table, entriesDecoder depth entries = some table ∧
        (items = [entries] ∨ items = [entries, .null]) := by
  constructor
  · rintro ⟨report, decoded, accepting⟩
    obtain ⟨slots, placed, built⟩ := Option.bind_eq_some_iff.mp decoded
    match items, placed with
    | [], _ => exact Or.inl rfl
    | [entries], rfl =>
      obtain ⟨table, read, -⟩ := Option.bind_eq_some_iff.mp built
      exact Or.inr ⟨entries, table, read, Or.inl rfl⟩
    | [entries, e], rfl =>
      obtain ⟨table, read, built⟩ := Option.bind_eq_some_iff.mp built
      have absent : e = .null := (Report.decoder_lists decoded).2.mp accepting e rfl
      exact Or.inr ⟨entries, table, read, Or.inr (by rw [absent])⟩
  · rintro (rfl | ⟨entries, table, read, rfl | rfl⟩)
    · exact ⟨⟨.empty, none⟩, rfl, rfl⟩
    · refine ⟨⟨table, none⟩, ?_, rfl⟩
      change (entriesDecoder depth entries).bind _ = _
      rw [read]
      rfl
    · refine ⟨⟨table, none⟩, ?_, rfl⟩
      change (entriesDecoder depth entries).bind _ = _
      rw [read]
      rfl

/-- What is not usable is accepted only as an array of fields. -/
theorem readReport_ok_iff_positional {stdout : String} (unusable : Unusable stdout) :
    (∃ packages, readReport stdout = .ok packages) ↔ Positional stdout := by
  constructor
  · rintro ⟨packages, accepted⟩
    obtain ⟨doc, report, parsed, decoded, accepting, -⟩ := readReport_eq_ok_iff.mp accepted
    cases doc with
    | object members =>
      obtain ⟨e, written, shown⟩ := unusable members parsed
      exact absurd accepting (refusal_of_error decoded written shown)
    | array items => exact ⟨items, parsed, Report.decoder_array_iff.mp ⟨report, decoded, accepting⟩⟩
    | _ => cases decoded
  · rintro ⟨items, parsed, shape⟩
    obtain ⟨report, decoded, accepting⟩ := Report.decoder_array_iff.mpr shape
    exact ⟨_, readReport_eq_ok_iff.mpr ⟨_, report, parsed, decoded, accepting, rfl⟩⟩

/-- Output that is not usable is malformed, and the stage that called the auditor gives its part of
the points for it, exactly unless it is an array of the fields of a report. -/
theorem malformed_iff_of_unusable {stdout : String} (unusable : Unusable stdout) :
    ((∃ message, readReport stdout = .error (.malformed "npm audit" message)) ↔
      ¬ Positional stdout) ∧
    ∀ runner settings ws w, AuditStage.Answered runner settings ws w stdout →
      ∃ o, ((AuditStage.run runner settings (some ws)).run w).1 = .ok o ∧
        (o.check.isPartial = true ∧ o.points.value? = some 12 ↔ ¬ Positional stdout) := by
  have accepted := readReport_ok_iff_positional unusable
  cases read : readReport stdout with
  | error failure =>
    rw [read] at accepted
    have other : ¬ Positional stdout := fun positional => by
      obtain ⟨packages, impossible⟩ := accepted.mpr positional
      cases impossible
    obtain ⟨message, rfl⟩ := readReport_error read
    refine ⟨iff_of_true ⟨message, rfl⟩ other, fun runner settings ws w answered => ?_⟩
    have value := AuditStage.run_answered answered
    rw [read] at value
    exact ⟨_, value, iff_of_true ⟨rfl, Scoring.auditPartialPoints_value⟩ other⟩
  | ok packages =>
    have positional : Positional stdout := accepted.mp ⟨packages, read⟩
    refine ⟨iff_of_false (fun ⟨_, impossible⟩ => by cases impossible) (not_not_intro positional),
      fun runner settings ws w answered => ?_⟩
    have value := AuditStage.run_answered answered
    rw [read] at value
    refine ⟨_, value, iff_of_false ?_ (not_not_intro positional)⟩
    rintro ⟨inPart, -⟩
    rw [AuditStage.outcomeOfReport, AuditStage.outcomeOf_complete] at inPart
    cases inPart

theorem malformed_iff_of_unusable_refused : ∃ message,
    readReport "\x7b\"error\": \x7b\x7d\x7d" = .error (.malformed "npm audit" message) := by
  have parsed : Document.ofText (Text.trim "\x7b\"error\": \x7b\x7d\x7d") =
      .ok (.object [(some "error", .object [])]) := by cbv
  refine (malformed_iff_of_unusable ?_).1.mpr ?_
  · intro members same
    rw [parsed] at same
    cases same
    exact ⟨_, List.mem_cons_self, by simp⟩
  · rintro ⟨items, same, -⟩
    rw [parsed] at same
    cases same

def dependentWorkspace : World :=
  .ofDisk ⟨[(["w"], .directory true), (["w", "package.json"], .file (Text.toBytes
    "\x7b\"dependencies\": \x7b\"p\": \"1\"\x7d\x7d") true true false)], []⟩

def idleTools : Runner := .answering fun _ => .ok ⟨some 0, "[]", ""⟩

theorem idleTools_answered :
    AuditStage.Answered idleTools .standard ⟨⟨"/w"⟩, []⟩ dependentWorkspace "[]" := by
  have called : (AuditStage.decision .standard (some ⟨⟨"/w"⟩, []⟩)
      dependentWorkspace.disk).toOption.map Option.isNone = some true := by decide +kernel
  refine ⟨?_, ⟨some 0, "[]", ""⟩, rfl, rfl⟩
  generalize AuditStage.decision .standard (some ⟨⟨"/w"⟩, []⟩) dependentWorkspace.disk = decision
    at called ⊢
  rcases decision with e | _ | o
  · cases called
  · rfl
  · cases called

/-- An empty array is not usable, and still gives all the points. -/
theorem empty_array_credited : Unusable "[]" ∧ readReport "[]" = .ok [] ∧
    ∃ o, ((AuditStage.run idleTools .standard (some ⟨⟨"/w"⟩, []⟩)).run dependentWorkspace).1 =
        .ok o ∧ o.check.isPartial = false ∧ o.points = .ofNat 15 := by
  have parsed : Document.ofText (Text.trim "[]") = .ok (.array []) := by cbv
  have empty : readReport "[]" = .ok [] := by decide +kernel
  refine ⟨fun members same => ?_, empty, ?_⟩
  · rw [parsed] at same
    cases same
  · have value := AuditStage.run_answered idleTools_answered
    rw [empty] at value
    exact ⟨_, value, by decide +kernel, by decide +kernel⟩

end FixGrader.Audit
