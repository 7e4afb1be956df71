import FixGrader.Proofs.Grading.Exact
import FixGrader.Proofs.Json.Records
import FixGrader.Proofs.Stage.Reports
/-!
# The findings of a lint report

A report lists files, and each file its messages. The issues of the lint stage are the messages
about security, in the order in which they are written, each with the file that it stands under.
Messages about anything else leave no trace, and the points go by the number of issues alone.
-/
namespace FixGrader.Lint
open Json

/-- Rules about security: those of the plugin, and some of the linter itself. -/
def SecurityRule (rule : String) : Prop :=
  "security/".toList <+: rule.toList ∨
    rule ∈ ["no-eval", "no-implied-eval", "no-new-func", "no-script-url"]

instance : DecidablePred SecurityRule := fun rule =>
  inferInstanceAs (Decidable ("security/".toList <+: rule.toList ∨ rule ∈ _))

def messagesOf (files : List Document) : List (Document × Document) :=
  files.flatMap fun file => (file.list 1 "messages").map fun message => (file, message)

def aboutSecurity (message : Document) : Bool :=
  (message.text? 0 "ruleId").any fun rule => decide (SecurityRule rule)

def securityMessages (files : List Document) : List (Document × Document) :=
  (messagesOf files).filter fun m => aboutSecurity m.2

/-- An issue says what a message says of a file. -/
structure Reports (m : Document × Document) (i : Issue) : Prop where
  message : m.2.text? 2 "message" = some i.message
  severity : ∃ level, m.2.number? 1 "severity" = some level ∧
    i.severity = if 2 ≤ level then .high else .medium
  detail : ∃ rule file, m.2.text? 0 "ruleId" = some rule ∧ m.1.text? 0 "filePath" = some file ∧
    i.detail = .lint rule (some ⟨file⟩) (m.2.number? 3 "line")

theorem isSecurityRule_iff (rule : String) : isSecurityRule rule = true ↔ SecurityRule rule := by
  rw [isSecurityRule, Bool.or_eq_true, List.isPrefixOf_iff_prefix, List.contains_iff_mem]
  rfl

/-- A diagnostic is read off a message and its file. -/
structure Describes (m : Document × Document) (d : Diagnostic) : Prop where
  file : m.1.text? 0 "filePath" = some d.file.text
  rule : m.2.text? 0 "ruleId" = d.rule
  message : m.2.text? 2 "message" = some d.message
  line : m.2.number? 3 "line" = d.line
  severity : ∃ level, m.2.number? 1 "severity" = some level ∧
    d.severity = if 2 ≤ level then .high else .medium

theorem Describes.isSecurity {m : Document × Document} {d : Diagnostic}
    (describes : Describes m d) : aboutSecurity m.2 = d.isSecurity := by
  have same : (fun rule => decide (SecurityRule rule)) = isSecurityRule := by
    funext rule
    rw [← Bool.coe_iff_coe, decide_eq_true_iff, isSecurityRule_iff]
  rw [aboutSecurity, describes.rule, same]
  rfl

theorem Describes.reports {m : Document × Document} {d : Diagnostic} (describes : Describes m d)
    (secure : d.isSecurity = true) : Reports m d.issue := by
  obtain ⟨rule, named⟩ : ∃ rule, d.rule = some rule := by
    rw [Diagnostic.isSecurity] at secure
    cases named : d.rule with
    | none =>
      rw [named] at secure
      cases secure
    | some rule => exact ⟨rule, rfl⟩
  refine ⟨describes.message, describes.severity, rule, d.file.text, ?_, describes.file, ?_⟩
  · rw [describes.rule, named]
  · rw [describes.line, Diagnostic.issue, named]
    rfl

theorem Message.decoder_describes {depth : Nat} {message : Document} {m : Message}
    (h : Message.decoder depth message = some m) {file : Document} {path : Path}
    (named : file.text? 0 "filePath" = some path.text) :
    Describes (file, message)
      ⟨path, m.line, m.rule, m.text, if 2 ≤ m.level then .high else .medium⟩ := by
  obtain ⟨slots, built, parts⟩ := Decoder.record_parts h
  simp only [List.mapIdx_cons, List.mapIdx_nil, List.map_eq_cons_iff, List.map_eq_nil_iff] at parts
  obtain ⟨rule, -, rfl, rule_part, level, -, rfl, level_part, text, -, rfl, text_part, line, -, rfl,
    line_part, rfl⟩ := parts
  obtain ⟨r, rule_read, built⟩ := Option.bind_eq_some_iff.mp built
  obtain ⟨n, level_read, built⟩ := Option.bind_eq_some_iff.mp built
  obtain ⟨t, text_read, built⟩ := Option.bind_eq_some_iff.mp built
  obtain ⟨l, line_read, same⟩ := Option.bind_eq_some_iff.mp built
  cases same
  have rule_read := Decoder.string_reads.nullable rule_read
  have level_read := (Decoder.natural_reads 8).required level_read
  have text_read := Decoder.string_reads.required text_read
  have line_read := (Decoder.natural_reads 64).nullable line_read
  rw [rule_part] at rule_read
  rw [level_part] at level_read
  rw [text_part] at text_read
  rw [line_part] at line_read
  exact ⟨named, rule_read, text_read, line_read, n, level_read, rfl⟩

theorem FileReport.decoder_describes {depth : Nat} {file : Document} {r : FileReport}
    (h : FileReport.decoder depth file = some r) :
    List.Forall₂ Describes ((file.list 1 "messages").map fun message => (file, message))
      r.diagnostics := by
  obtain ⟨slots, built, parts⟩ := Decoder.record_parts h
  simp only [List.mapIdx_cons, List.mapIdx_nil, List.map_eq_cons_iff, List.map_eq_nil_iff] at parts
  obtain ⟨path, -, rfl, path_part, messages, -, rfl, messages_part, rfl⟩ := parts
  obtain ⟨p, path_read, built⟩ := Option.bind_eq_some_iff.mp built
  obtain ⟨ms, messages_read, same⟩ := Option.bind_eq_some_iff.mp built
  cases same
  have path_read := Decoder.string_reads.required path_read
  rw [path_part] at path_read
  obtain ⟨inner, each⟩ := Decoder.orElse_list messages_read
  rw [messages_part] at each
  rw [FileReport.diagnostics, List.forall₂_map_left_iff, List.forall₂_map_right_iff]
  exact each.imp fun message m read => Message.decoder_describes read path_read

/-- A text is accepted if a report is read off each file of an array. -/
theorem readReport_eq_ok_iff {stdout : String} {diagnostics : List Diagnostic} :
    readReport stdout = .ok diagnostics ↔ ∃ files reports,
      Document.ofText (Text.trim stdout) = .ok (.array files) ∧
      List.Forall₂ (fun file r => FileReport.decoder (maxDepth - 1) file = some r) files reports ∧
      diagnostics = reports.flatMap FileReport.diagnostics := by
  have read : readReport stdout = .ok diagnostics ↔ ∃ reports,
      (Decoder.list FileReport.decoder).ofText (Text.trim stdout) = .ok reports ∧
        diagnostics = reports.flatMap FileReport.diagnostics := by
    unfold readReport
    dsimp only
    split
    · rename_i empty
      simp [Decoder.ofText_empty empty]
    · cases (Decoder.list FileReport.decoder).ofText (Text.trim stdout) <;> simp [eq_comm]
  simp only [read, Decoder.ofText_eq_ok_iff]
  constructor
  · rintro ⟨reports, ⟨doc, parsed, decoded⟩, rfl⟩
    cases doc with
    | array files => exact ⟨files, reports, parsed, Decoder.mapM_eq_some_iff.mp decoded, rfl⟩
    | _ => cases decoded
  · rintro ⟨files, reports, parsed, each, rfl⟩
    exact ⟨reports, ⟨_, parsed, Decoder.mapM_eq_some_iff.mpr each⟩, rfl⟩

/-- The issues of the diagnostics of a report are its messages about security. -/
theorem outcomeOf_reports {depth : Nat} {files : List Document} {reports : List FileReport}
    (each : List.Forall₂ (fun file r => FileReport.decoder depth file = some r) files reports) :
    List.Forall₂ Reports (securityMessages files)
      (LintStage.outcomeOf (reports.flatMap FileReport.diagnostics)).issues := by
  have all : List.Forall₂ Describes (messagesOf files) (reports.flatMap FileReport.diagnostics) :=
    List.rel_flatMap each fun file r read => FileReport.decoder_describes read
  have secure : List.Forall₂ Describes (securityMessages files)
      ((reports.flatMap FileReport.diagnostics).filter (·.isSecurity)) := by
    refine List.rel_filter ?_ all
    intro m d describes
    exact Bool.coe_iff_coe.mpr describes.isSecurity
  have about : ∀ m ∈ securityMessages files, aboutSecurity m.2 = true :=
    fun m listed => (List.mem_filter.mp listed).2
  rw [LintStage.outcomeOf_issues, List.forall₂_map_right_iff]
  refine ((List.forall₂_and_left _ _).mpr ⟨about, secure⟩).imp ?_
  rintro m d ⟨security, describes⟩
  exact describes.reports (describes.isSecurity ▸ security)

theorem outcomeOf_append (diagnostics diagnostics' : List Diagnostic) :
    (LintStage.outcomeOf (diagnostics ++ diagnostics')).issues =
      (LintStage.outcomeOf diagnostics).issues ++ (LintStage.outcomeOf diagnostics').issues := by
  simp only [LintStage.outcomeOf_issues, List.filter_append, List.map_append]

theorem outcomeOf_points (diagnostics : List Diagnostic) :
    (LintStage.outcomeOf diagnostics).points.value? =
      some (max 0 (25 - 5 * (LintStage.outcomeOf diagnostics).issues.length : ℚ)) := by
  rw [(LintStage.outcomeOf_counts diagnostics).points_eq]
  exact Scoring.penalized_value 25 5 (by decide) (by decide) (by decide) _

/-- What a report says about security, and nothing else, becomes the issues of the stage: one for
each message, in the order in which they are written. The points go by their number alone. If one
report is written behind another, so are their issues. -/
theorem findings_of_report {stdout : String} {diagnostics : List Diagnostic}
    (accepted : readReport stdout = .ok diagnostics) :
    ∃ files, Document.ofText (Text.trim stdout) = .ok (.array files) ∧
      (∀ runner settings ws w, LintStage.Answered runner settings ws w stdout →
        ((LintStage.run runner settings (some ws)).run w).1 = LintStage.outcomeOf diagnostics) ∧
      List.Forall₂ Reports (securityMessages files) (LintStage.outcomeOf diagnostics).issues ∧
      (LintStage.outcomeOf diagnostics).points.value? =
        some (max 0 (25 - 5 * (securityMessages files).length : ℚ)) ∧
      ∀ stdout' diagnostics' files' joined, readReport stdout' = .ok diagnostics' →
        Document.ofText (Text.trim stdout') = .ok (.array files') →
        Document.ofText (Text.trim joined) = .ok (.array (files ++ files')) →
        readReport joined = .ok (diagnostics ++ diagnostics') ∧
          (LintStage.outcomeOf (diagnostics ++ diagnostics')).issues =
            (LintStage.outcomeOf diagnostics).issues ++
              (LintStage.outcomeOf diagnostics').issues := by
  obtain ⟨files, reports, parsed, each, rfl⟩ := readReport_eq_ok_iff.mp accepted
  have told := outcomeOf_reports each
  refine ⟨files, parsed, fun runner settings ws w answered => ?_, told, ?_, ?_⟩
  · rw [LintStage.run_answered answered, accepted]
    rfl
  · rw [outcomeOf_points, told.length_eq]
  · intro stdout' diagnostics' files' joined accepted' parsed' parsedJoined
    obtain ⟨_, reports', parsed'', each', rfl⟩ := readReport_eq_ok_iff.mp accepted'
    obtain rfl := Document.array.inj (Except.ok.inj (parsed'.symm.trans parsed''))
    refine ⟨readReport_eq_ok_iff.mpr ⟨_, reports ++ reports', parsedJoined,
      List.rel_append each each', List.flatMap_append.symm⟩, outcomeOf_append _ _⟩

def mixedText : String :=
  "[\x7b\"filePath\":\"b\",\"messages\":[\x7b\"severity\":2,\"message\":\"n\"\x7d," ++
    "\x7b\"ruleId\":\"no-eval\",\"severity\":2,\"message\":\"m\",\"line\":3\x7d]\x7d]"

/-- A run of the stage in which the linter writes this report has the one issue. -/
theorem findings_of_report_mixed : ∃ files,
    Document.ofText (Text.trim mixedText) = .ok (.array files) ∧
    List.Forall₂ Reports (securityMessages files)
      [⟨.high, "m", .lint "no-eval" (some ⟨"b"⟩) (some 3)⟩] ∧
    ((LintStage.run (reportingTools mixedText "") .standard (some equippedFiles)).run
      equippedWorkspace).1.issues = [⟨.high, "m", .lint "no-eval" (some ⟨"b"⟩) (some 3)⟩] := by
  have accepted : readReport mixedText = .ok [
      ⟨⟨"b"⟩, none, none, "n", .high⟩, ⟨⟨"b"⟩, some 3, some "no-eval", "m", .high⟩] := by
    decide +kernel
  obtain ⟨files, parsed, stage, told, -⟩ := findings_of_report accepted
  have issues : (LintStage.outcomeOf [⟨⟨"b"⟩, none, none, "n", .high⟩,
      ⟨⟨"b"⟩, some 3, some "no-eval", "m", .high⟩]).issues =
        [⟨.high, "m", .lint "no-eval" (some ⟨"b"⟩) (some 3)⟩] := by decide +kernel
  rw [issues] at told
  refine ⟨files, parsed, told, ?_⟩
  rw [stage _ _ _ _ (LintStage.answered_reporting mixedText ""), issues]

end FixGrader.Lint
