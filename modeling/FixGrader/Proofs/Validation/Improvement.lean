import FixGrader.Proofs.Validation.Marks
/-!
# Improving a submission

Less that is vulnerable, more that is secure, and fewer findings of the tools never make a result
worse, if the tools run to the same degree: no points go down, and so neither do the score, the
grade and the verdict.
-/
namespace FixGrader

namespace Scoring
open Double

/-- Points that are at least other ones, and at most some whole number. -/
def AtLeast (most : ℕ) (points points' : Double) : Prop :=
  ∃ halves halves', InHalves points halves ∧ InHalves points' halves' ∧ halves' ≤ halves ∧
    halves ≤ 2 * most

theorem AtLeast.values {most : ℕ} {points points' : Double} (better : AtLeast most points points') :
    ∃ x x', points.value? = some x ∧ points'.value? = some x' ∧ x' ≤ x := by
  obtain ⟨halves, halves', counted, counted', le, -⟩ := better
  refine ⟨_, _, counted, counted', ?_⟩
  have le' : (halves' : ℚ) ≤ halves := by exact_mod_cast le
  linarith

def patternHalves (vulnerable secure : ℕ) : ℕ :=
  if 0 < vulnerable then 2 * (60 - 20 * vulnerable) else if 0 < secure then 120 else 84

theorem patternPoints_halves (vulnerable secure : ℕ) :
    InHalves (patternPoints vulnerable secure) (patternHalves vulnerable secure) := by
  unfold patternHalves
  split
  · exact patternPoints_inHalves ‹_› secure
  · rw [InHalves, patternPoints_value, if_neg ‹_›]
    split <;> norm_num

/-- Secure idioms count only without a vulnerable match, but then any number of points that is left
beside one is exceeded. -/
theorem patternPoints_atLeast {vulnerable vulnerable' secure secure' : ℕ}
    (fewer : vulnerable ≤ vulnerable') (more : secure' ≤ secure) :
    AtLeast 60 (patternPoints vulnerable secure) (patternPoints vulnerable' secure') := by
  refine ⟨_, _, patternPoints_halves _ _, patternPoints_halves _ _, ?_, ?_⟩
  · unfold patternHalves
    split_ifs <;> omega
  · unfold patternHalves
    split_ifs <;> omega

theorem total_le {points points' : List Double} {halves halves' : List ℕ}
    (each : List.Forall₂ InHalves points halves) (each' : List.Forall₂ InHalves points' halves')
    (less : halves'.sum ≤ halves.sum) (most : halves.sum ≤ 200) : total points' ≤ total points := by
  rw [total_halves each most, total_halves each' (less.trans most)]
  exact Nat.div_le_div_right (Nat.add_le_add_right less 1)

end Scoring

/-- Fewer findings of a tool that ran to the same degree leave at least as many points. -/
theorem Charged.atLeast {full penalty halves : ℕ} {part : ℚ} {check check' : Check}
    {findings findings' : ℕ} {points points' : Double}
    (charged : Charged full penalty part check findings (some points))
    (charged' : Charged full penalty part check' findings' (some points'))
    (alike : check.isPartial = check'.isPartial) (fewer : findings ≤ findings')
    (half : part = halves / 2) (limited : halves ≤ 2 * full) :
    Scoring.AtLeast full points points' := by
  have cost : penalty * findings ≤ penalty * findings' := Nat.mul_le_mul_left penalty fewer
  rcases charged.halves_cases halves half with ⟨inFull, left⟩ | ⟨inPart, given⟩
  · rcases charged'.halves_cases halves half with ⟨-, left'⟩ | ⟨inPart', -⟩
    · exact ⟨_, _, left, left', by omega, by omega⟩
    · rw [inFull, inPart'] at alike
      cases alike
  · rcases charged'.halves_cases halves half with ⟨inFull', -⟩ | ⟨-, given'⟩
    · rw [inPart, inFull'] at alike
      cases alike
    · exact ⟨_, _, given, given', le_rfl, limited⟩

namespace Grade

/-- In a table that goes down, a higher score finds an entry that is not behind. -/
theorem found_mono {entries : List (ℕ × Grade)}
    (descending : entries.Pairwise fun e e' => e'.2.rank ≤ e.2.rank)
    {score score' : ℕ} (le : score' ≤ score) :
    (((entries.find? (·.1 ≤ score')).map (·.2)).getD f).rank ≤
      (((entries.find? (·.1 ≤ score)).map (·.2)).getD f).rank := by
  induction entries with
  | nil => rfl
  | cons e entries ih =>
    obtain ⟨first, rest⟩ := List.pairwise_cons.mp descending
    rw [List.find?_cons, List.find?_cons]
    by_cases reached : e.1 ≤ score
    · by_cases reached' : e.1 ≤ score'
      · simp [reached, reached']
      · cases later : entries.find? (·.1 ≤ score') with
        | none => simp [reached', rank]
        | some e' =>
          have listed : e' ∈ entries := List.mem_of_find?_eq_some later
          simpa [reached, reached', later] using first e' listed
    · have missed : ¬ e.1 ≤ score' := by omega
      simpa [reached, missed] using ih rest

theorem forScore_mono {score score' : ℕ} (le : score' ≤ score) :
    (forScore score').rank ≤ (forScore score).rank :=
  found_mono (by decide) le

end Grade

/-- How often the secure patterns of some rules match what was submitted. -/
def Submission.secureMatches (s : Submission) (found : Resolution) : ℕ :=
  PatternStage.countMatches found.ruleSet.secure s.content.toList.toArray

namespace Validation

/-- What a validation yields for a submission in which the vulnerable and the secure patterns of the
rules match so often. -/
inductive Finds : Validation → ℕ → ℕ → Prop
  | intro {settings : Settings} {v : Validator} (accepted : Validator.ofSettings settings = .ok v)
    (runner : Runner) (now : Timestamp) (s : Submission) (w : World) {found : Resolution}
    (resolved : v.registry.resolve s.category = some found) :
    Finds ((v.validate runner now s).run w).1 (s.vulnerableMatches found) (s.secureMatches found)

/-- The tool stages of two results were carried out to the same degree. -/
structure DegradedAlike (r r' : Validation) : Prop where
  inPart : r.checks.tail.map (·.isPartial) = r'.checks.tail.map (·.isPartial)
  audited : r.subScores.audit.isSome = r'.subScores.audit.isSome

/-- In nothing that counts a result is behind another one. -/
structure AsGood (r r' : Validation) : Prop where
  points : ∀ stage points', r'.subScores.of stage = some points' → ∃ points x x',
    r.subScores.of stage = some points ∧ points.value? = some x ∧ points'.value? = some x' ∧ x' ≤ x
  score : r'.score ≤ r.score
  grade : r'.grade.rank ≤ r.grade.rank
  passed : r'.passed = true → r.passed = true

/-- What a result was made of. -/
structure MadeOf (r : Validation) (vulnerable secure : ℕ) (pattern lint : StageOutcome)
    (audit : Option StageOutcome) (abort : Option FileError) : Prop where
  result : ∃ s now, r = .ofOutcomes s (pattern :: lint :: audit.toList) abort now
  patterns : PatternStage.Charges pattern
  points : pattern.points = Scoring.patternPoints vulnerable secure
  linter : lint.Charges .lint .lint 25 5 (25 / 2)
  audited : ∀ o ∈ audit, o.Charges .audit .dependency 15 3 12
  complete : abort.isNone = audit.isSome

theorem Finds.madeOf {r : Validation} {vulnerable secure : ℕ} (finds : r.Finds vulnerable secure) :
    ∃ pattern lint audit abort, r.MadeOf vulnerable secure pattern lint audit abort := by
  obtain ⟨accepted, runner, now, s, w, resolved⟩ := finds
  rename_i v found
  have patterns := PatternStage.outcome_charges (Validator.consistent_of_settings accepted)
    s.category s.content
  have points : (PatternStage.outcome v.registry s.category s.content).points =
      Scoring.patternPoints (s.vulnerableMatches found) (s.secureMatches found) := by
    rw [PatternStage.outcome, resolved]
    exact PatternStage.outcomeWith_points ..
  have linter := LintStage.run_charges runner v.tools (Workspace.resolve s.workspace s.files)
  have result := (v.validate_run runner s w now).1
  obtain ⟨w₁, w₂, ⟨e, -, stages⟩ | ⟨o, ended, stages⟩⟩ := v.stages_cases runner s w
  · rw [stages] at result
    refine ⟨_, _, none, some e, ⟨s, now, result⟩, patterns, points, linter w₁, ?_, rfl⟩
    intro o present
    cases present
  · rw [stages] at result
    refine ⟨_, _, some o, none, ⟨s, now, result⟩, patterns, points, linter w₁, ?_, rfl⟩
    rintro _ ⟨⟩
    exact AuditStage.run_charges ended

namespace MadeOf
variable {r r' : Validation} {vulnerable secure vulnerable' secure' : ℕ}
  {pattern lint pattern' lint' : StageOutcome} {audit audit' : Option StageOutcome}
  {abort abort' : Option FileError}
  (made : r.MadeOf vulnerable secure pattern lint audit abort)
  (made' : r'.MadeOf vulnerable' secure' pattern' lint' audit' abort')

include made

theorem subScores_eq :
    r.subScores = ⟨some pattern.points, some lint.points, audit.map (·.points)⟩ := by
  obtain ⟨s, now, rfl⟩ := made.result
  exact Validation.subScores_eq made.patterns made.linter made.audited

theorem score_eq : r.score = Scoring.total
    ([some pattern.points, some lint.points, audit.map (·.points)].filterMap id) := by
  have scores := made.subScores_eq
  obtain ⟨s, now, rfl⟩ := made.result
  exact congrArg (fun scores => Scoring.total (SubScores.values scores)) scores

theorem grade_eq : r.grade = Grade.forScore r.score := by
  obtain ⟨s, now, rfl⟩ := made.result
  rfl

theorem passed_iff : r.passed = true ↔ audit.isSome = true ∧ 80 ≤ r.score := by
  rw [← made.complete, ← Scoring.isPassing_iff, ← Bool.and_eq_true]
  obtain ⟨s, now, rfl⟩ := made.result
  rfl

theorem findings_lint : r.issueCount .lint = lint.issues.length := by
  obtain ⟨s, now, rfl⟩ := made.result
  exact countP_lint_eq made.patterns made.linter made.audited

theorem findings_audit : r.issueCount .dependency = (audit.toList.flatMap (·.issues)).length := by
  obtain ⟨s, now, rfl⟩ := made.result
  exact countP_dependency_eq made.patterns made.linter made.audited

theorem flags_eq : r.checks.tail.map (·.isPartial) = lint.check.isPartial ::
    (audit.toList.map (·.check.isPartial) ++ abort.toList.map fun _ => false) := by
  obtain ⟨s, now, rfl⟩ := made.result
  simp only [ofOutcomes, List.map_cons, List.cons_append, List.tail_cons, List.map_append,
    List.map_map]
  rfl

include made'

theorem lint_alike (alike : r.DegradedAlike r') : lint.check.isPartial = lint'.check.isPartial := by
  have flags := alike.inPart
  rw [made.flags_eq, made'.flags_eq] at flags
  exact (List.cons.inj flags).1

/-- Where tools that ran to the same degree find no more, the audits were made in both cases or in
neither, and leave at least as many points. -/
theorem audits (alike : r.DegradedAlike r')
    (fewer : r.issueCount .dependency ≤ r'.issueCount .dependency) :
    Option.Rel (fun o o' => Scoring.AtLeast 15 o.points o'.points) audit audit' := by
  have present := alike.audited
  have flags := alike.inPart
  rw [made.subScores_eq, made'.subScores_eq] at present
  rw [made.flags_eq, made'.flags_eq] at flags
  rw [made.findings_audit, made'.findings_audit] at fewer
  cases audit with
  | none =>
    cases audit' with
    | none => exact .none
    | some o' => cases present
  | some o =>
    cases audit' with
    | none => cases present
    | some o' =>
      have degree : o.check.isPartial = o'.check.isPartial :=
        (List.cons.inj (List.cons.inj flags).2).1
      simp only [Option.toList_some, List.flatMap_singleton] at fewer
      exact .some ((made.audited o rfl).charged.atLeast (made'.audited o' rfl).charged degree fewer
        (by norm_num : (12 : ℚ) = (24 : ℕ) / 2) (by norm_num))

/-- A result whose stages give at least as many points is as good. -/
theorem asGood (patterns : Scoring.AtLeast 60 pattern.points pattern'.points)
    (linter : Scoring.AtLeast 25 lint.points lint'.points)
    (audits : Option.Rel (fun o o' => Scoring.AtLeast 15 o.points o'.points) audit audit') :
    r.AsGood r' := by
  have score : r'.score ≤ r.score := by
    obtain ⟨p, p', p_halves, p'_halves, p_le, p_most⟩ := patterns
    obtain ⟨l, l', l_halves, l'_halves, l_le, l_most⟩ := linter
    rw [made.score_eq, made'.score_eq]
    cases audits with
    | none =>
      exact Scoring.total_le (.cons p_halves (.cons l_halves .nil))
        (.cons p'_halves (.cons l'_halves .nil)) (by simp; omega) (by simp; omega)
    | some better =>
      obtain ⟨a, a', a_halves, a'_halves, a_le, a_most⟩ := better
      exact Scoring.total_le (.cons p_halves (.cons l_halves (.cons a_halves .nil)))
        (.cons p'_halves (.cons l'_halves (.cons a'_halves .nil))) (by simp; omega) (by simp; omega)
  refine ⟨?_, score, ?_, ?_⟩
  · intro stage points' given
    rw [made'.subScores_eq] at given
    rw [made.subScores_eq]
    cases stage with
    | pattern =>
      cases given
      obtain ⟨x, x', value, value', le⟩ := patterns.values
      exact ⟨_, x, x', rfl, value, value', le⟩
    | lint =>
      cases given
      obtain ⟨x, x', value, value', le⟩ := linter.values
      exact ⟨_, x, x', rfl, value, value', le⟩
    | audit =>
      cases audits with
      | none => cases given
      | some better =>
        cases given
        obtain ⟨x, x', value, value', le⟩ := better.values
        exact ⟨_, x, x', rfl, value, value', le⟩
  · rw [made.grade_eq, made'.grade_eq]
    exact Grade.forScore_mono score
  · intro passed
    obtain ⟨complete, enough⟩ := made'.passed_iff.mp passed
    refine made.passed_iff.mpr ⟨?_, enough.trans score⟩
    cases audits with
    | none => exact complete
    | some _ => rfl

end MadeOf

end Validation

/-- Fixing more never makes a result worse: with no more vulnerable matches, no fewer secure ones,
and no more findings of tools that ran to the same degree, no points are lost, and the score, the
grade and the verdict are at least as good. -/
theorem asGood_of_fewer {r r' : Validation} {vulnerable secure vulnerable' secure' : ℕ}
    (finds : r.Finds vulnerable secure) (finds' : r'.Finds vulnerable' secure')
    (alike : r.DegradedAlike r') (fewer : vulnerable ≤ vulnerable') (more : secure' ≤ secure)
    (lint : r.issueCount .lint ≤ r'.issueCount .lint)
    (audit : r.issueCount .dependency ≤ r'.issueCount .dependency) : r.AsGood r' := by
  obtain ⟨pattern₁, lint₁, audit₁, abort₁, made⟩ := finds.madeOf
  obtain ⟨pattern₂, lint₂, audit₂, abort₂, made'⟩ := finds'.madeOf
  have patterns : Scoring.AtLeast 60 pattern₁.points pattern₂.points := by
    rw [made.points, made'.points]
    exact Scoring.patternPoints_atLeast fewer more
  have linter : Scoring.AtLeast 25 lint₁.points lint₂.points := by
    rw [made.findings_lint, made'.findings_lint] at lint
    exact made.linter.charged.atLeast made'.linter.charged (made.lint_alike made' alike) lint
      (by norm_num : (25 / 2 : ℚ) = (25 : ℕ) / 2) (by norm_num)
  exact made.asGood made' patterns linter (made.audits made' alike audit)

/-- A submission of a text that is in no file, so that no tool is called. -/
def textOnly (content : String) : Submission := ⟨"challenge", "plain", [], content, none⟩

theorem asGood_of_fewer_once :
    ((patternValidator.validate contentTools default (textOnly "s")).run emptyWorkspace).1.AsGood
      ((patternValidator.validate contentTools default (textOnly "eval(s)")).run
        emptyWorkspace).1 := by
  have counted : (patternValidator.registry.resolve "plain").map (fun found =>
      ((textOnly "s").vulnerableMatches found, (textOnly "eval(s)").vulnerableMatches found,
        (textOnly "s").secureMatches found, (textOnly "eval(s)").secureMatches found)) =
          some (0, 1, 0, 0) := by
    decide +kernel
  obtain ⟨found, resolved, counts⟩ := Option.map_eq_some_iff.mp counted
  simp only [Prod.mk.injEq] at counts
  refine asGood_of_fewer (.intro patternValidator_accepted _ _ (textOnly "s") _ resolved)
    (.intro patternValidator_accepted _ _ (textOnly "eval(s)") _ resolved) ⟨?_, ?_⟩ ?_ ?_ ?_ ?_
  · decide +kernel
  · decide +kernel
  · omega
  · omega
  · decide +kernel
  · decide +kernel

end FixGrader
