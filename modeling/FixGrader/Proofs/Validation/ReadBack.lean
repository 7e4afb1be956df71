import FixGrader.Proofs.Json.Fields
import FixGrader.Proofs.Validation.Marks
import FixGrader.Validation.Report
/-!
# Reports are read back

A report as JSON is the whole result: from its text the same result is decoded. Issues, checks and
points are read back one by one. What a stage adds to its check are texts and counts under different
names, and its points are few enough to be looked at; so that a result is read back whatever its
stages found, as long as its numbers are words of 64 bits.
-/
namespace FixGrader

open Json Document

namespace Issue

theorem severityText_known (s : Severity) : Severity.ofText? s.text = some s := by
  cases s <;> decide

theorem kindText_known (k : Kind) : Kind.ofText? k.text = some k := by
  cases k <;> decide

theorem detail_names (d : Detail) : d.members.map (·.1) = detailFields d.kind := by
  cases d <;> rfl

def commonMembers (i : Issue) : List (String × Json) :=
  [("severity", .string i.severity.text), ("message", .string i.message),
    ("type", .string i.kind.text)]

theorem names_distinct (i : Issue) :
    ((i.commonMembers ++ i.detail.members).map (·.1)).Nodup := by
  have apart : ∀ k : Kind, (["severity", "message", "type"] ++ detailFields k).Nodup := by
    intro k
    cases k <;> decide
  rw [List.map_append, detail_names]
  exact apart i.detail.kind

theorem line_written (line : Option Nat) (word : ∀ n ∈ line, n < 2 ^ (64 : Nat)) (levels : Nat) :
    Written (Decoder.nullable lineDecoder) levels (ofOption ofNat line) line :=
  .option (fun n same => .natural levels (word n same) (word n same)) fun _ same => by cases same

theorem text_written (text : Option String) (levels : Nat) :
    Written (Decoder.nullable .string) levels (ofOption .string text) text :=
  .option (fun s _ => .string levels s) fun _ same => by cases same

theorem file_written (file : Option Path) (levels : Nat) :
    Written (Decoder.nullable pathDecoder) levels (ofOption (fun f => .string f.text) file) file :=
  .option (fun f _ => (Written.string levels f.text).map Path.mk) fun _ same => by cases same

variable {i : Issue}

/-- The members of an issue that depend on its kind. -/
theorem detail_written (word : ∀ n ∈ i.line, n < 2 ^ (64 : Nat)) :
    (∀ m ∈ i.detail.members, Fits ReadBack 1 m.2) ∧ ∀ depth, 1 ≤ depth →
      detailOfSlots i.kind (i.detail.members.map fun m => .found depth m.2.document) =
        some i.detail := by
  obtain ⟨severity, message, detail⟩ := i
  cases detail with
  | vulnerability pattern matched line =>
    have named := Written.string 1 pattern
    have strings := Written.strings 0 matched
    have numbered := line_written line word 1
    constructor
    · simp only [Detail.members, List.forall_mem_cons]
      exact ⟨named.fits, strings.fits, numbered.fits, List.forall_mem_nil _⟩
    · intro depth deep
      simp only [Detail.members, List.map_cons, List.map_nil, kind, Detail.kind, detailOfSlots,
        named.required deep, strings.required deep, numbered.orNull deep]
      rfl
  | lint rule file line =>
    have named := Written.string 1 rule
    have located := file_written file 1
    have numbered := line_written line word 1
    constructor
    · simp only [Detail.members, List.forall_mem_cons]
      exact ⟨named.fits, located.fits, numbered.fits, List.forall_mem_nil _⟩
    · intro depth deep
      simp only [Detail.members, List.map_cons, List.map_nil, kind, Detail.kind, detailOfSlots,
        named.required deep, located.orNull deep, numbered.orNull deep]
      rfl
  | dependency package title =>
    have named := Written.string 1 package
    have titled := text_written title 1
    constructor
    · simp only [Detail.members, List.forall_mem_cons]
      exact ⟨named.fits, titled.fits, List.forall_mem_nil _⟩
    · intro depth deep
      simp only [Detail.members, List.map_cons, List.map_nil, kind, Detail.kind, detailOfSlots,
        named.required deep, titled.orNull deep]
      rfl

theorem hasValues_documents {members : List (String × Json)} {levels depth : Nat}
    (fits : ∀ m ∈ members, Fits ReadBack levels m.2) (deep : levels ≤ depth) :
    hasValues depth (memberDocuments members) = true := by
  unfold hasValues
  rw [memberDocuments_eq_map, List.all_map, List.all_eq_true]
  intro m listed
  simp [((fits m listed).mono deep).valueAt_document]

/-- An issue is written as one flat object, of which it is read again. -/
theorem written (word : ∀ n ∈ i.line, n < 2 ^ (64 : Nat)) :
    Written decoder 2 i.toJson i := by
  have fits : ∀ m ∈ i.commonMembers ++ i.detail.members, Fits ReadBack 1 m.2 := by
    rw [List.forall_mem_append]
    refine ⟨?_, (detail_written word).1⟩
    simp only [commonMembers, List.forall_mem_cons]
    exact ⟨.string _, .string _, .string _, List.forall_mem_nil _⟩
  refine ⟨.object i.names_distinct fits, fun depth deep => ?_⟩
  obtain ⟨inner, rfl⟩ : ∃ inner, depth = inner + 1 := ⟨depth - 1, by omega⟩
  have deep' : 1 ≤ inner := by omega
  have valued := hasValues_documents fits deep'
  have severity : severityDecoder inner (.string (some i.severity.text)) = some i.severity :=
    severityText_known i.severity
  have named : kindDecoder inner (.string (some i.kind.text)) = some i.kind := kindText_known i.kind
  have common : Decoder.objectSlots ["severity", "message", "type"] inner
      (memberDocuments (i.commonMembers ++ i.detail.members)) = some _ :=
    objectSlots_some i.names_distinct i.commonMembers
      (fun m listed => List.mem_append_left _ listed) inner
  have own := objectSlots_some i.names_distinct i.detail.members
    (fun m listed => List.mem_append_right _ listed) inner
  rw [detail_names] at own
  change decoder (inner + 1) (.object (memberDocuments (i.commonMembers ++ i.detail.members))) = _
  unfold decoder
  simp only [valued, guard, if_true, common]
  change (do
    let severity ← severityDecoder inner (.string (some i.severity.text))
    let kind ← kindDecoder inner (.string (some i.kind.text))
    let slots ← Decoder.objectSlots (detailFields kind) inner
      (memberDocuments (i.commonMembers ++ i.detail.members))
    return (⟨severity, i.message, ← detailOfSlots kind slots⟩ : Issue)) = some i
  rw [severity, named]
  change (Decoder.objectSlots (detailFields i.detail.kind) inner _ >>= _) = _
  rw [own]
  change (detailOfSlots i.kind _ >>= _) = _
  rw [(detail_written word).2 inner deep']
  rfl

end Issue

namespace Check

def commonMembers (c : Check) : List (String × Json) :=
  [("name", .string c.name), ("passed", .bool c.passed), ("partial", .bool c.isPartial),
    ("message", .string c.message)]

/-- A check is written with its details, or without any where it has none. -/
theorem written {c : Check} {levels : Nat}
    (detailed : ∀ d, c.details = some d → Fits ReadBack levels d ∧ d ≠ .null) :
    Written decoder (levels + 1) c.toJson c := by
  have common : ∀ m ∈ c.commonMembers, Fits ReadBack levels m.2 := by
    simp only [commonMembers, List.forall_mem_cons]
    exact ⟨.string _, .bool _, .bool _, .string _, List.forall_mem_nil _⟩
  have distinct : (["name", "passed", "partial", "message", "details"] : List String).Nodup := by
    decide
  obtain ⟨name, passed, isPartial, message, details⟩ := c
  cases details with
  | none => exact .recordButLast rfl distinct common fun depth _ => rfl
  | some d =>
    obtain ⟨fits, filled⟩ := detailed d rfl
    have given : Written detailsDecoder levels d (some d) := (Written.value fits).notNull filled
    have inner : ∀ m ∈ commonMembers ⟨name, passed, isPartial, message, some d⟩ ++ [("details", d)],
        Fits ReadBack levels m.2 :=
      List.forall_mem_append.mpr ⟨common, List.forall_mem_singleton.mpr fits⟩
    refine .record rfl distinct inner fun depth deep => ?_
    have text := fun s => (Written.string levels s).required deep
    have judged := Written.bool levels
    simp only [List.cons_append, List.nil_append, List.map_cons, List.map_nil, text,
      (judged passed).required deep, (judged isPartial).orElse false deep, given.orElse none deep]
    rfl

end Check

theorem SubScores.written {s : SubScores} (levels : Nat)
    (lossless : ∀ x ∈ s.values, Number.Lossless (.real x)) :
    Written decoder (levels + 1) s.toJson s := by
  have each : ∀ o : Option Double, (∀ x, o = some x → Number.Lossless (.real x)) →
      Written (Decoder.nullable .double) levels (ofOption (fun d => Json.number (.real d)) o) o :=
    fun o exact => .option (fun x same => .double levels (exact x same)) fun _ same => by cases same
  have pattern := each s.pattern fun x same => lossless x (by simp [values, same])
  have lint := each s.lint fun x same => lossless x (by simp [values, same])
  have audit := each s.audit fun x same => lossless x (by simp [values, same])
  have distinct : (["pattern", "static_analysis", "dependency"] : List String).Nodup := by decide
  refine .record rfl distinct ?_ fun depth deep => ?_
  · simp only [List.forall_mem_cons]
    exact ⟨pattern.fits, lint.fits, audit.fits, List.forall_mem_nil _⟩
  · simp only [List.map_cons, List.map_nil, pattern.orNull deep, lint.orNull deep,
      audit.orNull deep]
    rfl

theorem Grade.text_known (g : Grade) : ofText? g.text = some g := by
  cases g <;> decide

/-- A result is written with its checks and its issues, and read again with them. -/
theorem Validation.written {v : Validation} {levels : Nat} (score : v.score < 2 ^ (32 : Nat))
    (maxScore : v.maxScore < 2 ^ (32 : Nat))
    (points : ∀ x ∈ v.subScores.values, Number.Lossless (.real x))
    (checks : ∀ c ∈ v.checks, Written Check.decoder (levels + 2) c.toJson c)
    (issues : ∀ i ∈ v.issues, Written Issue.decoder (levels + 2) i.toJson i)
    (time : Timestamp.ofText? v.validatedAt.text = some v.validatedAt) :
    Written decoder (levels + 4) v.toJson v := by
  have text := Written.string (levels + 3)
  have judged := Written.bool (levels + 3) v.passed
  have scored := Written.natural (levels + 3) score (by omega)
  have bounded := Written.natural (levels + 3) maxScore (by omega)
  have graded : Written gradeDecoder (levels + 3) _ _ :=
    .keyword (levels + 3) (Grade.text_known v.grade)
  have pointed := SubScores.written (levels + 2) points
  have checked := Written.list checks
  have found := Written.list issues
  have recommended := Written.strings (levels + 2) v.recommendations
  have timed : Written timeDecoder (levels + 3) _ _ := (text v.validatedAt.text).filterMap time
  have distinct : (["challenge_id", "category", "passed", "score", "max_score", "grade",
      "sub_scores", "checks", "issues", "recommendations", "submission_digest",
      "validated_at"] : List String).Nodup := by
    decide
  refine .record rfl distinct ?_ fun depth deep => ?_
  · simp only [List.forall_mem_cons]
    exact ⟨(text _).fits, (text _).fits, judged.fits, scored.fits, bounded.fits, graded.fits,
      pointed.fits, checked.fits, found.fits, recommended.fits, (text _).fits, timed.fits,
      List.forall_mem_nil _⟩
  · simp only [List.map_cons, List.map_nil, (text _).required deep, judged.required deep,
      scored.required deep, bounded.required deep, graded.required deep, pointed.required deep,
      checked.required deep, found.required deep, recommended.required deep, timed.required deep]
    rfl

/-- Whose details, if there are any, are texts and counts under different names. -/
def Check.Tallied (c : Check) : Prop :=
  ∀ d, c.details = some d → ∃ members : List (String × Json), d = .object members ∧
    (members.map (·.1)).Nodup ∧ ∀ m ∈ members, (∃ s, m.2 = .string s) ∨ ∃ n, m.2 = ofNat n

namespace Check

def counts (c : Check) : List Nat :=
  match c.details with
  | some (.object members) => members.filterMap fun m =>
    match m.2 with
    | .number (.int (.ofNat n)) => some n
    | _ => none
  | _ => []

variable {c : Check}

theorem tallied_of_none (bare : c.details = none) : c.Tallied := by
  intro d given
  rw [bare] at given
  cases given

theorem Tallied.withDetails {members : List (String × Json)} (distinct : (members.map (·.1)).Nodup)
    (each : ∀ m ∈ members, (∃ s, m.2 = .string s) ∨ ∃ n, m.2 = ofNat n) :
    (c.withDetails members).Tallied := by
  rintro d ⟨⟩
  exact ⟨members, rfl, distinct, each⟩

/-- A check with a count of findings. -/
theorem Tallied.ofCount (name : String) (n : Nat) : (c.withDetails [(name, ofNat n)]).Tallied :=
  .withDetails (List.nodup_singleton name) (List.forall_mem_singleton.mpr (Or.inr ⟨n, rfl⟩))

theorem Tallied.written (tallied : c.Tallied) (words : ∀ n ∈ c.counts, n < 2 ^ (64 : Nat)) :
    Written decoder 2 c.toJson c := by
  refine Check.written fun d given => ?_
  obtain ⟨members, rfl, distinct, each⟩ := tallied d given
  refine ⟨.object distinct fun m listed => ?_, fun same => by cases same⟩
  obtain ⟨s, text⟩ | ⟨n, count⟩ := each m listed
  · rw [text]
    exact .string s
  · have counted : n ∈ c.counts := by
      rw [counts, given]
      exact List.mem_filterMap.mpr ⟨m, listed, by rw [count]; rfl⟩
    have word := words n counted
    rw [count]
    exact (Written.natural 0 word word).fits

end Check

namespace StageOutcome

/-- An outcome of which a report is read back. -/
structure Recorded (o : StageOutcome) : Prop where
  points : Number.Lossless (.real o.points)
  check : o.check.Tallied

theorem lossless_ofNat : ∀ n ≤ 60, Number.Lossless (.real (.ofNat n)) := by decide +kernel

/-- An outcome that goes by the number of its issues is read back if its points are few enough. -/
theorem Counts.recorded {o : StageOutcome} {stage : Stage} {points : Nat → Double}
    {name key : String} (counts : o.Counts stage points name key)
    (few : ∀ n, ∃ k ≤ 60, points n = .ofNat k) : o.Recorded := by
  obtain ⟨k, least, same⟩ := few o.issues.length
  obtain ⟨bare, -, check⟩ := counts.check
  constructor
  · rw [counts.points_eq, same]
    exact lossless_ofNat k least
  · rw [check]
    exact .ofCount key _

end StageOutcome

theorem PatternStage.outcome_recorded (r : Registry) (category source : String) :
    (outcome r category source).Recorded := by
  constructor
  · obtain ⟨n, listed, points⟩ := outcome_points r category source
    rw [points]
    refine StageOutcome.lossless_ofNat n ?_
    simp only [List.mem_cons, List.not_mem_nil, or_false] at listed
    omega
  · unfold outcome
    split
    · exact Check.tallied_of_none rfl
    · rename_i found _
      obtain ⟨recommendations, same⟩ := outcomeWith_eq category found source.toList.toArray
      rw [same]
      refine .withDetails (by simp) ?_
      simp only [List.forall_mem_cons]
      exact ⟨.inl ⟨_, rfl⟩, .inl ⟨_, rfl⟩, .inl ⟨_, rfl⟩, .inr ⟨_, rfl⟩, .inr ⟨_, rfl⟩,
        List.forall_mem_nil _⟩

theorem LintStage.run_recorded (runner : Runner) (settings : ToolSettings) (ws : Option Workspace)
    (w : World) : ((run runner settings ws).run w).1.Recorded := by
  obtain ⟨reason, ended⟩ | ⟨diagnostics, ended⟩ := run_cases runner settings ws w
  · rw [ended]
    refine ⟨?_, Check.tallied_of_none rfl⟩
    change Number.Lossless (.real Scoring.lintPartialPoints)
    decide +kernel
  · rw [ended]
    exact (outcomeOf_counts diagnostics).recorded fun n => ⟨_, by omega, Scoring.lintPoints_eq n⟩

theorem AuditStage.run_recorded {runner : Runner} {settings : ToolSettings} {ws : Option Workspace}
    {w : World} {o : StageOutcome} (ended : ((run runner settings ws).run w).1 = .ok o) :
    o.Recorded := by
  obtain ⟨message, rfl⟩ | ⟨reason, rfl⟩ | ⟨packages, rfl⟩ := run_cases ended
  · exact ⟨StageOutcome.lossless_ofNat 15 (by omega), Check.tallied_of_none rfl⟩
  · refine ⟨?_, Check.tallied_of_none rfl⟩
    change Number.Lossless (.real Scoring.auditPartialPoints)
    decide +kernel
  · exact (outcomeOf_counts packages).recorded fun n => ⟨_, by omega, Scoring.auditPoints_eq n⟩

theorem Validator.stages_recorded (v : Validator) (runner : Runner) (s : Submission) (w : World) :
    ∀ o ∈ ((v.stages runner s).run w).1.1, o.Recorded :=
  stages_forall v runner s w (PatternStage.outcome_recorded v.registry s.category s.content)
    (LintStage.run_recorded runner v.tools _) fun _ _ ended => AuditStage.run_recorded ended

/-- The lines and the counts of a result: the numbers in it that grow with what was submitted. -/
def Validation.quantities (v : Validation) : List Nat :=
  v.issues.filterMap (·.line) ++ v.checks.flatMap (·.counts)

/-- The points of a result are those of its outcomes. -/
theorem SubScores.mem_ofOutcomes {outcomes : List StageOutcome} {x : Double}
    (given : x ∈ (ofOutcomes outcomes).values) : ∃ o ∈ outcomes, o.points = x := by
  have found : ∀ stage, pointsOf outcomes stage = some x → ∃ o ∈ outcomes, o.points = x := by
    intro stage points
    obtain ⟨o, first, same⟩ := Option.map_eq_some_iff.mp points
    exact ⟨o, List.mem_of_find?_eq_some first, same⟩
  simp only [values, ofOutcomes, List.mem_filterMap, List.mem_cons, List.not_mem_nil, or_false,
    id, exists_eq_or_imp, exists_eq_left] at given
  obtain pattern | lint | audit := given
  · exact found _ pattern
  · exact found _ lint
  · exact found _ audit

theorem Validation.ofOutcomes_written {s : Submission} {outcomes : List StageOutcome}
    {abort : Option FileError} {now : Timestamp} (recorded : ∀ o ∈ outcomes, o.Recorded)
    (time : Timestamp.ofText? now.text = some now)
    (words : ∀ n ∈ (ofOutcomes s outcomes abort now).quantities, n < 2 ^ (64 : Nat)) :
    Written decoder 4 (ofOutcomes s outcomes abort now).toJson
      (ofOutcomes s outcomes abort now) := by
  have bounded : (ofOutcomes s outcomes abort now).score ≤ 100 := Nat.min_le_right _ _
  have tallied : ∀ c ∈ (ofOutcomes s outcomes abort now).checks, c.Tallied := by
    intro c listed
    obtain made | broken := List.mem_append.mp listed
    · obtain ⟨o, there, rfl⟩ := List.mem_map.mp made
      exact (recorded o there).check
    · obtain ⟨e, -, rfl⟩ := List.mem_map.mp broken
      exact Check.tallied_of_none rfl
  refine Validation.written (by omega) (show 100 < _ by decide) ?_ ?_ ?_ time
  · intro x given
    obtain ⟨o, there, rfl⟩ := SubScores.mem_ofOutcomes given
    exact (recorded o there).points
  · intro c listed
    refine (tallied c listed).written fun n counted => words n (List.mem_append_right _ ?_)
    exact List.mem_flatMap.mpr ⟨c, listed, counted⟩
  · intro i listed
    refine Issue.written fun n line => words n (List.mem_append_left _ ?_)
    exact List.mem_filterMap.mpr ⟨i, listed, line⟩

/-- A report as JSON is read back as the result that it is a report of, and the text of an issue as
this issue, with the name of its kind as its `type`. Lines and counts are words of 64 bits, and the
time is one that can be read back from its own text. -/
theorem report_readBack :
    (∀ (v : Validator) (runner : Runner) (now : Timestamp) (s : Submission) (w : World),
      Timestamp.ofText? now.text = some now →
      (∀ n ∈ ((v.validate runner now s).run w).1.quantities, n < 2 ^ (64 : Nat)) →
      Validation.decoder.ofText (Report.render ((v.validate runner now s).run w).1 .json) =
        .ok ((v.validate runner now s).run w).1) ∧
    ∀ i : Issue, (∀ n ∈ i.line, n < 2 ^ (64 : Nat)) →
      Issue.decoder.ofText i.toJson.pretty = .ok i ∧
        ∃ name, i.toJson.get? "type" = some (.string name) ∧
          Issue.Kind.ofText? name = some i.kind := by
  constructor
  · intro v runner now s w time words
    rw [(v.validate_run runner s w now).1] at words ⊢
    have written := Validation.ofOutcomes_written (v.stages_recorded runner s w) time words
    exact written.ofText (by decide)
  · intro i word
    exact ⟨(Issue.written word).ofText (by decide), i.kind.text, rfl, Issue.kindText_known i.kind⟩

/-- A match of a pattern, a diagnostic without a line, and a package without a title. -/
def assortedIssues : List Issue := [
  ⟨.high, "dynamic code", .vulnerability "eval" ["eval(\"\u2028\")"] (some 3)⟩,
  ⟨.medium, "found \t here", .lint "security/detect-eval" none none⟩,
  ⟨.low, "", .dependency "lodash" none⟩]

theorem report_readBack_once :
    Validation.decoder.ofText (Report.render ((patternValidator.validate contentTools default
        oneMatch).run emptyWorkspace).1 .json) =
      .ok ((patternValidator.validate contentTools default oneMatch).run emptyWorkspace).1 ∧
    ∀ i ∈ assortedIssues, Issue.decoder.ofText i.toJson.pretty = .ok i := by
  constructor
  · exact report_readBack.1 patternValidator contentTools default oneMatch emptyWorkspace
      (by decide +kernel) (by decide +kernel)
  · have words : ∀ i ∈ assortedIssues, ∀ n ∈ i.line, n < 2 ^ (64 : Nat) := by decide +kernel
    exact fun i listed => (report_readBack.2 i (words i listed)).1

end FixGrader
