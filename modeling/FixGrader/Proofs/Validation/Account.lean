import FixGrader.Proofs.Rules.Accepted
import FixGrader.Proofs.Stage.Charge
import FixGrader.Proofs.Stage.Reports
import FixGrader.Proofs.Validation.Course
/-!
# The account of a validation

A result tells how its score came about. There are always three checks, of the patterns, of the
linter, and of the audit or of the error that it was broken off by. The points of each stage follow
from its check and the number of its issues, and the score is their sum, rounded once.
-/
namespace FixGrader

def SubScores.of (s : SubScores) : Stage → Option Double
  | .pattern => s.pattern
  | .lint => s.lint
  | .audit => s.audit

namespace Validation

def matchCount (r : Validation) : ℕ := (r.issues.map Issue.matchCount).sum

def issueCount (r : Validation) (kind : Issue.Kind) : ℕ := r.issues.countP (·.kind = kind)

/-- What its checks and issues say about the points and the score of a result. -/
structure Accounted (r : Validation) (pattern lint last : Check) : Prop where
  checks_eq : r.checks = [pattern, lint, last]
  patterns : Matched pattern r.matchCount r.subScores.pattern
  linter : Charged 25 5 (25 / 2) lint (r.issueCount .lint) r.subScores.lint
  audit : last.name = AuditStage.checkName ∧
      Charged 15 3 12 last (r.issueCount .dependency) r.subScores.audit ∨
    last.name = errorCheckName ∧ r.subScores.audit = none
  within : ∀ stage points, r.subScores.of stage = some points →
    ∃ x full, points.value? = some x ∧ stage.full.value? = some full ∧ 0 ≤ x ∧ x ≤ full
  score_eq : (r.score : ℤ) = Scoring.nearest (r.subScores.values.filterMap Double.value?).sum

theorem sum_matchCount_other {issues : List Issue} {kind : Issue.Kind}
    (kinds : ∀ i ∈ issues, i.kind = kind) (other : kind ≠ .vulnerability) :
    (issues.map Issue.matchCount).sum = 0 := by
  apply List.sum_eq_zero
  intro n listed
  obtain ⟨i, member, rfl⟩ := List.mem_map.mp listed
  exact Issue.matchCount_of_kind (kinds i member ▸ other)

theorem countP_same {issues : List Issue} {kind : Issue.Kind}
    (kinds : ∀ i ∈ issues, i.kind = kind) : issues.countP (·.kind = kind) = issues.length := by
  rw [List.countP_eq_length]
  intro i member
  simpa using kinds i member

theorem countP_other {issues : List Issue} {kind other : Issue.Kind}
    (kinds : ∀ i ∈ issues, i.kind = kind) (apart : kind ≠ other) :
    issues.countP (·.kind = other) = 0 := by
  rw [List.countP_eq_zero]
  intro i member
  simpa [kinds i member] using apart

section Results
variable {pattern lint : StageOutcome} {audit : Option StageOutcome}
  (patterns : PatternStage.Charges pattern)
  (linter : lint.Charges .lint .lint 25 5 (25 / 2))
  (audited : ∀ o ∈ audit, o.Charges .audit .dependency 15 3 12)

include audited in
theorem issues_kinds : ∀ i ∈ audit.toList.flatMap (·.issues), i.kind = .dependency := by
  intro i listed
  obtain ⟨o, member, issued⟩ := List.mem_flatMap.mp listed
  exact (audited o (Option.mem_toList.mp member)).kinds i issued

include linter audited in
theorem sum_matchCount_eq :
    (((pattern :: lint :: audit.toList).flatMap (·.issues)).map Issue.matchCount).sum =
      (pattern.issues.map Issue.matchCount).sum := by
  rw [List.flatMap_cons, List.flatMap_cons, List.map_append, List.map_append, List.sum_append,
    List.sum_append, sum_matchCount_other linter.kinds (by decide),
    sum_matchCount_other (issues_kinds audited) (by decide)]
  rfl

include patterns linter audited

theorem subScores_eq : SubScores.ofOutcomes (pattern :: lint :: audit.toList) =
    ⟨some pattern.points, some lint.points, audit.map (·.points)⟩ :=
  SubScores.ofOutcomes_eq audit patterns.stage_eq linter.stage_eq
    fun o ended => (audited o ended).stage_eq

theorem countP_lint_eq :
    ((pattern :: lint :: audit.toList).flatMap (·.issues)).countP (·.kind = .lint) =
      lint.issues.length := by
  rw [List.flatMap_cons, List.flatMap_cons, List.countP_append, List.countP_append,
    countP_other patterns.kinds (by decide), countP_same linter.kinds,
    countP_other (issues_kinds audited) (by decide)]
  omega

theorem countP_dependency_eq :
    ((pattern :: lint :: audit.toList).flatMap (·.issues)).countP (·.kind = .dependency) =
      (audit.toList.flatMap (·.issues)).length := by
  rw [List.flatMap_cons, List.flatMap_cons, List.countP_append, List.countP_append,
    countP_other patterns.kinds (by decide), countP_other linter.kinds (by decide),
    countP_same (issues_kinds audited)]
  omega

open Scoring in
/-- The points of the stages are halves, of no more than their full points. -/
theorem points_inHalves : (∃ h ≤ 2 * 60, InHalves pattern.points h) ∧
    (∃ h ≤ 2 * 25, InHalves lint.points h) ∧
      ∀ o ∈ audit, ∃ h ≤ 2 * 15, InHalves o.points h := by
  refine ⟨patterns.charged.inHalves, ?_, ?_⟩
  · exact linter.charged.inHalves 25 (by norm_num) (by decide)
  · intro o ended
    exact (audited o ended).charged.inHalves 24 (by norm_num) (by decide)

open Scoring in
theorem total_values_eq :
    (total (SubScores.ofOutcomes (pattern :: lint :: audit.toList)).values : ℤ) =
      nearest ((SubScores.ofOutcomes (pattern :: lint :: audit.toList)).values.filterMap
        Double.value?).sum := by
  obtain ⟨⟨p, p_le, p_halves⟩, ⟨l, l_le, l_halves⟩, third⟩ :=
    points_inHalves patterns linter audited
  rw [subScores_eq patterns linter audited]
  cases audit with
  | none => exact total_eq (.cons p_halves (.cons l_halves .nil)) (by simp; omega)
  | some o =>
    obtain ⟨a, a_le, a_halves⟩ := third o rfl
    exact total_eq (.cons p_halves (.cons l_halves (.cons a_halves .nil))) (by simp; omega)

theorem subScores_within {stage : Stage} {points : Double}
    (given : (SubScores.ofOutcomes (pattern :: lint :: audit.toList)).of stage = some points) :
    ∃ x full, points.value? = some x ∧ stage.full.value? = some full ∧ 0 ≤ x ∧ x ≤ full := by
  obtain ⟨⟨p, p_le, p_halves⟩, ⟨l, l_le, l_halves⟩, third⟩ :=
    points_inHalves patterns linter audited
  rw [subScores_eq patterns linter audited] at given
  cases stage with
  | pattern =>
    cases given
    exact Scoring.within_of_inHalves p_halves p_le (Double.ofNat_value (n := 60) (by decide))
  | lint =>
    cases given
    exact Scoring.within_of_inHalves l_halves l_le (Double.ofNat_value (n := 25) (by decide))
  | audit =>
    obtain ⟨o, ended, rfl⟩ := Option.map_eq_some_iff.mp given
    obtain ⟨a, a_le, a_halves⟩ := third o ended
    exact Scoring.within_of_inHalves a_halves a_le (Double.ofNat_value (n := 15) (by decide))

/-- A result is accounted for by the outcomes that it was made of, if its last check is that of the
audit, or the error that took its place. -/
theorem accounted_of_ending (abort : Option FileError) {last : Check}
    (checks : audit.toList.map (·.check) ++ abort.toList.map errorCheck = [last])
    (ending : last.name = AuditStage.checkName ∧ Charged 15 3 12 last
        (audit.toList.flatMap (·.issues)).length (audit.map (·.points)) ∨
      last.name = errorCheckName ∧ audit = none) (s : Submission) (now : Timestamp) :
    (ofOutcomes s (pattern :: lint :: audit.toList) abort now).Accounted pattern.check lint.check
      last := by
  have scores := subScores_eq patterns linter audited
  constructor
  · exact congrArg (pattern.check :: lint.check :: ·) checks
  · rw [matchCount, ofOutcomes, sum_matchCount_eq linter audited, scores]
    exact patterns.charged
  · rw [issueCount, ofOutcomes, countP_lint_eq patterns linter audited, scores]
    exact linter.charged
  · rw [issueCount, ofOutcomes, countP_dependency_eq patterns linter audited, scores]
    exact ending.imp_right fun broken => ⟨broken.1, by rw [broken.2, Option.map_none]⟩
  · exact fun _ _ => subScores_within patterns linter audited
  · exact total_values_eq patterns linter audited

end Results

end Validation

theorem PatternStage.outcome_charges {r : Registry} (consistent : r.Consistent)
    (category source : String) : Charges (outcome r category source) := by
  obtain ⟨found, resolved⟩ := Option.isSome_iff_exists.mp (consistent.resolve_isSome category)
  rw [outcome, resolved]
  exact outcomeWith_charges category found _

theorem Validator.registry_of_settings {settings : Settings} {v : Validator}
    (accepted : ofSettings settings = .ok v) :
    Registry.withSettings settings.rules = .ok v.registry := by
  unfold ofSettings at accepted
  cases registry : Registry.withSettings settings.rules with
  | error e =>
    rw [registry] at accepted
    cases accepted
  | ok r =>
    rw [registry] at accepted
    cases accepted
    rfl

theorem Validator.consistent_of_settings {settings : Settings} {v : Validator}
    (accepted : ofSettings settings = .ok v) : v.registry.Consistent :=
  Registry.consistent_of_accepted (registry_of_settings accepted)

/-- Points that lie between none and the full ones are left alone when an outcome is made of them. -/
theorem StageOutcome.clamped?_of_inHalves {stage : Stage} {points : Double} {halves most : ℕ}
    (counted : Scoring.InHalves points halves) (limited : halves ≤ 2 * most)
    (full_value : stage.full.value? = some (most : ℚ)) (check : Check) :
    clamped? stage points stage.full check = some (.of stage points check) := by
  obtain ⟨x, full, value, full_value, nonneg, le⟩ :=
    Scoring.within_of_inHalves counted limited full_value
  rw [clamped?, Double.clamp?_of_within value Double.zero_value full_value nonneg le]
  rfl

theorem StageOutcome.Charges.clamped {o : StageOutcome} {stage : Stage} {kind : Issue.Kind}
    {full penalty n : ℕ} {part : ℚ} (charges : o.Charges stage kind full penalty part)
    (half : part = n / 2) (limited : n ≤ 2 * full)
    (full_value : stage.full.value? = some (full : ℚ)) :
    clamped? o.stage o.points o.stage.full o.check = some (.of o.stage o.points o.check) := by
  obtain ⟨h, le, counted⟩ := charges.charged.inHalves n half limited
  exact clamped?_of_inHalves counted le (charges.stage_eq ▸ full_value) o.check

/-- The points of every stage lie between none and its full points, so that bringing them there
changes no outcome. -/
theorem Validator.stages_clamped {settings : Settings} {v : Validator}
    (accepted : ofSettings settings = .ok v) (runner : Runner) (s : Submission) (w : World) :
    ∀ o ∈ ((v.stages runner s).run w).1.1, StageOutcome.clamped? o.stage o.points o.stage.full
      o.check = some (.of o.stage o.points o.check) := by
  refine stages_forall v runner s w ?_ (fun w' => ?_) fun w' o ended => ?_
  · have patterns := PatternStage.outcome_charges (consistent_of_settings accepted) s.category
      s.content
    obtain ⟨h, le, counted⟩ := patterns.charged.inHalves
    exact StageOutcome.clamped?_of_inHalves counted le
      (patterns.stage_eq ▸ Double.ofNat_value (n := 60) (by decide)) _
  · exact (LintStage.run_charges runner v.tools _ w').clamped (n := 25) (by norm_num)
      (by decide) (Double.ofNat_value (n := 25) (by decide))
  · exact (AuditStage.run_charges ended).clamped (n := 24) (by norm_num) (by decide)
      (Double.ofNat_value (n := 15) (by decide))

def Validator.ofUsable (settings : Settings) : Validator :=
  (ofSettings settings).toOption.getD default

theorem Validator.ofUsable_accepted {settings : Settings}
    (usable : (ofSettings settings).toBool = true) :
    ofSettings settings = .ok (ofUsable settings) := by
  unfold ofUsable
  cases built : ofSettings settings with
  | error e =>
    rw [built] at usable
    cases usable
  | ok v => rfl

/-- The score of every result is accounted for by its checks and issues, whatever the settings, the
tools and the files. -/
theorem validate_accounted (settings : Settings) (v : Validator)
    (accepted : Validator.ofSettings settings = .ok v) (runner : Runner) (now : Timestamp)
    (s : Submission) (w : World) :
    ∃ pattern lint last, ((v.validate runner now s).run w).1.Accounted pattern lint last := by
  obtain ⟨w₁, w₂, -, -, together, -⟩ := Validator.stages_run v runner s w
  have patterns := PatternStage.outcome_charges (Validator.consistent_of_settings accepted)
    s.category s.content
  have linter := LintStage.run_charges runner v.tools (Workspace.resolve s.workspace s.files) w₁
  rw [(Validator.validate_run v runner s w now).1, together]
  rcases ended : ((AuditStage.run runner v.tools
    (Workspace.resolve s.workspace s.files)).run w₂).1 with e | o
  · have nothing : ∀ o ∈ (none : Option StageOutcome), o.Charges .audit .dependency 15 3 12 := by
      intro o present
      cases present
    exact ⟨_, _, _, Validation.accounted_of_ending patterns linter nothing (some e) rfl
      (Or.inr ⟨rfl, rfl⟩) s now⟩
  · have charges := AuditStage.run_charges ended
    have audited : ∀ o' ∈ some o, o'.Charges .audit .dependency 15 3 12 := by
      intro o' same
      cases same
      exact charges
    refine ⟨_, _, _, Validation.accounted_of_ending patterns linter audited none rfl
      (Or.inl ⟨?_, ?_⟩) s now⟩
    · exact AuditStage.run_name ended
    · simpa using charges.charged

def onePattern : Settings :=
  { rules := { custom := [{ category := "plain", vulnerable := ["eval"] }] } }

/-- Two matches, a diagnostic and a package are charged for; where the linter writes no report, the
sum is a half, which is rounded up. -/
theorem validate_accounted_rounded : ∃ v, Validator.ofSettings onePattern = .ok v ∧
    (∀ linted, ∃ pattern lint last, ((v.validate (reportingTools linted auditedText) default
      equippedSubmission).run equippedWorkspace).1.Accounted pattern lint last) ∧
    (∃ r : Validation, r = ((v.validate (reportingTools lintedText auditedText) default
        equippedSubmission).run equippedWorkspace).1 ∧
      r.issues.map (·.kind) = [.vulnerability, .lint, .dependency] ∧ r.score = 52) ∧
    ((v.validate (reportingTools "" auditedText) default equippedSubmission).run
      equippedWorkspace).1.score = 45 := by
  refine ⟨_, rfl, fun linted => ?_, ⟨_, rfl, ?_⟩, by decide +kernel⟩
  · exact validate_accounted onePattern _ rfl _ default equippedSubmission _
  · decide +kernel

end FixGrader
