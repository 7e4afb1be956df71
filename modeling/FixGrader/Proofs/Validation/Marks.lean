import FixGrader.Proofs.Validation.Account
import FixGrader.Proofs.Validation.Verdict
/-!
# Passing without the full points of the patterns

Eighty points are just what is left when one vulnerable match costs twenty of them. So a submission
that misses the full points of the patterns passes only if both tools ran in full and found nothing,
and not with two matches.
-/
namespace FixGrader

/-- A lint stage that ran in full and found nothing gives exactly the full points. -/
theorem LintStage.points_of_clean {runner : Runner} {settings : ToolSettings}
    {ws : Option Workspace} {w : World}
    (inFull : ((run runner settings ws).run w).1.check.isPartial = false)
    (clean : ((run runner settings ws).run w).1.issues.length = 0) :
    ((run runner settings ws).run w).1.points = .ofNat 25 := by
  obtain ⟨reason, ended⟩ | ⟨diagnostics, ended⟩ := run_cases runner settings ws w
  · rw [ended] at inFull
    cases inFull
  · rw [ended] at clean ⊢
    rw [(outcomeOf_counts diagnostics).points_eq, clean]
    decide +kernel

/-- An audit that was made in full and found nothing, or had nothing to do, gives exactly the full
points. -/
theorem AuditStage.points_of_clean {runner : Runner} {settings : ToolSettings}
    {ws : Option Workspace} {w : World} {o : StageOutcome}
    (ended : ((run runner settings ws).run w).1 = .ok o) (inFull : o.check.isPartial = false)
    (clean : o.issues.length = 0) : o.points = .ofNat 15 := by
  obtain ⟨message, rfl⟩ | ⟨reason, rfl⟩ | ⟨packages, rfl⟩ := run_cases ended
  · rfl
  · cases inFull
  · rw [(outcomeOf_counts packages).points_eq, clean]
    decide +kernel

open Scoring in
/-- With at most 42 points of the patterns a total passes only if both tools gave all of theirs. -/
theorem Scoring.clean_of_passing {points : Double} {halves : ℕ} (counted : InHalves points halves)
    (most : halves ≤ 84) {lint audit : StageOutcome}
    (linter : lint.Charges .lint .lint 25 5 (25 / 2))
    (audited : audit.Charges .audit .dependency 15 3 12)
    (enough : 80 ≤ total [points, lint.points, audit.points]) :
    (lint.check.isPartial = false ∧ lint.issues.length = 0) ∧
      (audit.check.isPartial = false ∧ audit.issues.length = 0) ∧ 79 ≤ halves := by
  have total_eq : ∀ {l a}, InHalves lint.points l → InHalves audit.points a → l ≤ 50 → a ≤ 30 →
      80 ≤ (halves + l + a + 1) / 2 := by
    intro l a hl ha l_le a_le
    have sum := total_halves (.cons counted (.cons hl (.cons ha .nil))) (by simp; omega)
    rw [sum] at enough
    simpa [Nat.add_assoc] using enough
  rcases linter.charged.halves_cases 25 (by norm_num) with ⟨inFull, l⟩ | ⟨-, l⟩
  · rcases audited.charged.halves_cases 24 (by norm_num) with ⟨inFull', a⟩ | ⟨-, a⟩
    · have := total_eq l a (by omega) (by omega)
      exact ⟨⟨inFull, by omega⟩, ⟨inFull', by omega⟩, by omega⟩
    · have := total_eq l a (by omega) (by omega)
      omega
  · rcases audited.charged.inHalves 24 (by norm_num) (by decide) with ⟨a, a_le, ha⟩
    have := total_eq l ha (by omega) a_le
    omega

/-- How often the vulnerable patterns of some rules match what was submitted. -/
def Submission.vulnerableMatches (s : Submission) (found : Resolution) : ℕ :=
  PatternStage.countMatches found.ruleSet.vulnerable s.content.toList.toArray

open Scoring in
theorem Scoring.patternPoints_inHalves {vulnerable : ℕ} (matched : 0 < vulnerable) (secure : ℕ) :
    InHalves (patternPoints vulnerable secure) (2 * (60 - 20 * vulnerable)) := by
  rw [InHalves, patternPoints_value, if_pos matched]
  exact congrArg some (halves_of_penalized 60 20 vulnerable)

open Scoring in
/-- Points of the patterns that are not the full ones are at most 42. -/
theorem PatternStage.points_of_missed {registry : Registry} {category content : String}
    (missed : (outcome registry category content).points ≠ .ofNat 60) :
    ∃ halves ≤ 84, InHalves (outcome registry category content).points halves := by
  obtain ⟨n, listed, points⟩ := outcome_points registry category content
  have least : n ≤ 42 := by
    have other : n ≠ 60 := by
      rintro rfl
      exact missed points
    simp only [List.mem_cons, List.not_mem_nil, or_false] at listed
    omega
  refine ⟨2 * n, by omega, ?_⟩
  rw [InHalves, points, Double.ofNat_value (by omega), Nat.cast_mul, Nat.cast_two,
    mul_div_cancel_left₀ _ two_ne_zero]

open Scoring in
theorem PatternStage.points_of_matched {registry : Registry} {s : Submission} {found : Resolution}
    (resolved : registry.resolve s.category = some found)
    (matched : 0 < s.vulnerableMatches found) :
    InHalves (outcome registry s.category s.content).points
      (2 * (60 - 20 * s.vulnerableMatches found)) := by
  rw [outcome, resolved]
  dsimp only
  rw [outcomeWith_points]
  exact patternPoints_inHalves matched _

/-- What a result that passes was made of. -/
theorem Validator.stages_of_passed {v : Validator} {runner : Runner} {s : Submission} {w : World}
    {now : Timestamp} (passed : ((v.validate runner now s).run w).1.passed = true) :
    ∃ w₁ w₂ audit, ((AuditStage.run runner v.tools
        (Workspace.resolve s.workspace s.files)).run w₂).1 = .ok audit ∧
      ((v.validate runner now s).run w).1 = .ofOutcomes s
        [PatternStage.outcome v.registry s.category s.content,
          ((LintStage.run runner v.tools (Workspace.resolve s.workspace s.files)).run w₁).1, audit]
        none now := by
  have result := (validate_run v runner s w now).1
  obtain ⟨w₁, w₂, ⟨e, -, stages⟩ | ⟨audit, ended, stages⟩⟩ := stages_cases v runner s w
  · rw [stages] at result
    rw [result] at passed
    cases passed
  · rw [stages] at result
    exact ⟨w₁, w₂, audit, ended, result⟩

section Passed
variable {pattern lint audit : StageOutcome} (patterns : PatternStage.Charges pattern)
  (linter : lint.Charges .lint .lint 25 5 (25 / 2))
  (audited : audit.Charges .audit .dependency 15 3 12) {s : Submission} {now : Timestamp}
  (passed : (Validation.ofOutcomes s [pattern, lint, audit] none now).passed = true)

include patterns linter audited

theorem Validation.subScores_complete : SubScores.ofOutcomes [pattern, lint, audit] =
    ⟨some pattern.points, some lint.points, some audit.points⟩ := by
  refine SubScores.ofOutcomes_eq (some audit) patterns.stage_eq linter.stage_eq ?_
  rintro o ⟨⟩
  exact audited.stage_eq

include passed

theorem Validation.enough_of_passed :
    80 ≤ Scoring.total [pattern.points, lint.points, audit.points] := by
  have enough := (Scoring.isPassing_iff _).mp passed
  rw [subScores_complete patterns linter audited] at enough
  exact enough

end Passed

/-- A submission that misses the full points of the patterns passes only with exactly the full points
of both tools. While a vulnerable pattern matches it passes only with a single match, and with tools
that ran in full and found nothing. -/
theorem passed_below_full_marks (settings : Settings) (v : Validator)
    (accepted : Validator.ofSettings settings = .ok v) (runner : Runner) (now : Timestamp)
    (s : Submission) (w : World) (passed : ((v.validate runner now s).run w).1.passed = true) :
    (((v.validate runner now s).run w).1.subScores.pattern ≠ some (.ofNat 60) →
      ((v.validate runner now s).run w).1.subScores.lint = some (.ofNat 25) ∧
        ((v.validate runner now s).run w).1.subScores.audit = some (.ofNat 15)) ∧
    ∃ found, v.registry.resolve s.category = some found ∧
      (0 < s.vulnerableMatches found →
        s.vulnerableMatches found = 1 ∧
        (∀ c ∈ ((v.validate runner now s).run w).1.checks.tail,
          c.isPartial = false ∧ c.passed = true) ∧
        ((v.validate runner now s).run w).1.issueCount .lint = 0 ∧
        ((v.validate runner now s).run w).1.issueCount .dependency = 0) := by
  obtain ⟨w₁, w₂, audit, ended, result⟩ := Validator.stages_of_passed passed
  have consistent := Validator.consistent_of_settings accepted
  have patterns := PatternStage.outcome_charges consistent s.category s.content
  have linter := LintStage.run_charges runner v.tools (Workspace.resolve s.workspace s.files) w₁
  have audited := AuditStage.run_charges ended
  rw [result] at passed ⊢
  have scores := Validation.subScores_complete patterns linter audited
  have enough := Validation.enough_of_passed patterns linter audited passed
  constructor
  · intro missed
    rw [Validation.ofOutcomes, scores] at missed ⊢
    obtain ⟨halves, most, counted⟩ :=
      PatternStage.points_of_missed fun full => missed (congrArg some full)
    obtain ⟨⟨inFull, clean⟩, ⟨inFull', clean'⟩, -⟩ :=
      Scoring.clean_of_passing counted most linter audited enough
    exact ⟨congrArg some (LintStage.points_of_clean inFull clean),
      congrArg some (AuditStage.points_of_clean ended inFull' clean')⟩
  · obtain ⟨found, resolved⟩ := Option.isSome_iff_exists.mp (consistent.resolve_isSome s.category)
    refine ⟨found, resolved, fun matched => ?_⟩
    obtain ⟨⟨inFull, clean⟩, ⟨inFull', clean'⟩, most⟩ := Scoring.clean_of_passing
      (PatternStage.points_of_matched resolved matched) (by omega) linter audited enough
    have each : ∀ o ∈ some audit, o.Charges .audit .dependency 15 3 12 := by
      rintro o ⟨⟩
      exact audited
    refine ⟨by omega, ?_, ?_, ?_⟩
    · intro c listed
      rcases List.mem_cons.mp listed with rfl | listed
      · exact ⟨inFull, (linter.charged.inFull inFull).2.mpr clean⟩
      · rw [List.mem_singleton.mp listed]
        exact ⟨inFull', (audited.charged.inFull inFull').2.mpr clean'⟩
    · exact (Validation.countP_lint_eq patterns linter each).trans clean
    · rw [Validation.issueCount]
      refine (Validation.countP_dependency_eq patterns linter each).trans ?_
      rw [Option.toList_some, List.flatMap_singleton, clean']

def patternValidator : Validator := (Validator.ofSettings onePattern).toOption.getD default

theorem patternValidator_accepted : Validator.ofSettings onePattern = .ok patternValidator :=
  Validator.ofUsable_accepted (by decide +kernel)

/-- A submission in which this pattern matches once. -/
def oneMatch : Submission := ⟨"challenge", "plain", [⟨"/w/a.js"⟩], "eval(s)", some ⟨"/w"⟩⟩

def emptyWorkspace : World := .ofDisk ⟨[(["w"], .directory true)], []⟩

def contentTools : Runner := .answering fun _ => .ok ⟨some 0, "[]", ""⟩

theorem passed_below_full_marks_once : ∃ r : Validation,
    r = ((patternValidator.validate contentTools default oneMatch).run emptyWorkspace).1 ∧
      r.passed = true ∧ r.subScores.pattern = some (.ofNat 40) ∧
      r.subScores.lint = some (.ofNat 25) ∧ r.subScores.audit = some (.ofNat 15) ∧
      r.issueCount .lint = 0 := by
  have facts : ((patternValidator.validate contentTools default oneMatch).run
        emptyWorkspace).1.passed = true ∧
      ((patternValidator.validate contentTools default oneMatch).run
        emptyWorkspace).1.subScores.pattern = some (.ofNat 40) := by
    decide +kernel
  obtain ⟨full, found, resolved, clean⟩ := passed_below_full_marks onePattern patternValidator
    patternValidator_accepted contentTools default oneMatch emptyWorkspace facts.1
  have less : some (Double.ofNat 40) ≠ some (Double.ofNat 60) := by decide +kernel
  obtain ⟨lint, audit⟩ := full (facts.2 ▸ less)
  have matched : 0 < oneMatch.vulnerableMatches found := by
    have counted : (patternValidator.registry.resolve oneMatch.category).map
        oneMatch.vulnerableMatches = some 1 := by
      decide +kernel
    rw [resolved, Option.map_some, Option.some.injEq] at counted
    omega
  exact ⟨_, rfl, facts.1, facts.2, lint, audit, (clean matched).2.2.1⟩

end FixGrader
