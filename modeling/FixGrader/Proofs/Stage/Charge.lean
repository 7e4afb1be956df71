import FixGrader.Proofs.Grading.Exact
import FixGrader.Proofs.Stage.Course
/-!
# What the stages charge for

The points of a stage can be told from its check and its issues. Nothing is reported that is not
charged for, and nothing is charged for that is not reported; a stage that could only be carried out
in part reports nothing and gives a fixed number of points.
-/
namespace FixGrader

def Issue.matchCount (i : Issue) : ℕ :=
  match i.detail with
  | .vulnerability _ matched _ => matched.length
  | _ => 0

theorem Issue.matchCount_of_kind {i : Issue} (other : i.kind ≠ .vulnerability) :
    i.matchCount = 0 := by
  obtain ⟨severity, message, detail⟩ := i
  cases detail with
  | vulnerability => exact absurd rfl other
  | lint => rfl
  | dependency => rfl

/-- How the matches of the pattern stage are charged for, by its check and the number of matches. -/
structure Matched (check : Check) (found : ℕ) (points : Option Double) : Prop where
  points_eq : ∃ details secure, check.details = some (.object details) ∧
    details.lookup "secure_count" = some (Json.ofNat secure) ∧
    points.bind Double.value? = some (if 0 < found then max 0 (60 - 20 * found : ℚ)
      else if 0 < secure then 60 else 42)
  passed_iff : check.passed = true ↔ found = 0

/-- How the findings of a tool stage are charged for, by its check and the number of findings. -/
structure Charged (full penalty : ℕ) (part : ℚ) (check : Check) (findings : ℕ)
    (points : Option Double) : Prop where
  inFull : check.isPartial = false →
    points.bind Double.value? = some (max 0 (full - penalty * findings : ℚ)) ∧
      (check.passed = true ↔ findings = 0)
  inPart : check.isPartial = true →
    points.bind Double.value? = some part ∧ check.passed = true ∧ findings = 0

open Scoring in
theorem Matched.inHalves {check : Check} {found : ℕ} {points : Double}
    (matched : Matched check found (some points)) : ∃ h ≤ 2 * 60, InHalves points h := by
  obtain ⟨details, secure, -, -, value⟩ := matched.points_eq
  rw [Option.bind_some] at value
  by_cases vulnerable : 0 < found
  · refine ⟨2 * (60 - 20 * found), by omega, ?_⟩
    rw [InHalves, value, if_pos vulnerable]
    exact congrArg some (halves_of_penalized 60 20 found)
  · rw [if_neg vulnerable] at value
    by_cases evidence : 0 < secure
    · refine ⟨120, by omega, ?_⟩
      rw [InHalves, value, if_pos evidence]
      norm_num
    · refine ⟨84, by omega, ?_⟩
      rw [InHalves, value, if_neg evidence]
      norm_num

open Scoring in
/-- In halves, a stage gives what its findings leave of the full points, or those of a part. -/
theorem Charged.halves_cases {full penalty : ℕ} {part : ℚ} {check : Check} {findings : ℕ}
    {points : Double} (charged : Charged full penalty part check findings (some points))
    (halves : ℕ) (half : part = halves / 2) :
    check.isPartial = false ∧ InHalves points (2 * (full - penalty * findings)) ∨
      check.isPartial = true ∧ InHalves points halves := by
  cases degraded : check.isPartial with
  | false =>
    refine Or.inl ⟨rfl, ?_⟩
    rw [InHalves, ← halves_of_penalized]
    exact (charged.inFull degraded).1
  | true =>
    refine Or.inr ⟨rfl, ?_⟩
    rw [InHalves, ← half]
    exact (charged.inPart degraded).1

open Scoring in
theorem Charged.inHalves {full penalty : ℕ} {part : ℚ} {check : Check} {findings : ℕ}
    {points : Double} (charged : Charged full penalty part check findings (some points))
    (halves : ℕ) (half : part = halves / 2) (limited : halves ≤ 2 * full) :
    ∃ h ≤ 2 * full, InHalves points h := by
  rcases charged.halves_cases halves half with ⟨-, left⟩ | ⟨-, given⟩
  · exact ⟨_, by omega, left⟩
  · exact ⟨_, limited, given⟩

/-- An outcome of a tool stage whose issues are of one kind and charged for. -/
structure StageOutcome.Charges (o : StageOutcome) (stage : Stage) (kind : Issue.Kind)
    (full penalty : ℕ) (part : ℚ) : Prop where
  stage_eq : o.stage = stage
  kinds : ∀ i ∈ o.issues, i.kind = kind
  charged : Charged full penalty part o.check o.issues.length (some o.points)

namespace StageOutcome.Charges
variable {o : StageOutcome} {stage : Stage} {kind : Issue.Kind} {full penalty : ℕ} {part : ℚ}

theorem recommend (charges : o.Charges stage kind full penalty part) (text : String) :
    (o.recommend text).Charges stage kind full penalty part :=
  ⟨charges.stage_eq, charges.kinds, charges.charged⟩

theorem of_inPart {points : Double} (value : points.value? = some part) (name reason : String) :
    (StageOutcome.of stage points (.inPart name reason)).Charges stage kind full penalty part := by
  refine ⟨rfl, ?_, ?_⟩
  · intro i listed
    cases listed
  · constructor
    · intro complete
      cases complete
    · exact fun _ => ⟨value, rfl, rfl⟩

/-- A stage that reports its findings passes exactly if there are none. -/
theorem of_findings (stage : Stage) (part : ℚ) {points : Double} {issues : List Issue}
    {check : Check} {count : ℕ} (counted : issues.length = count)
    (value : points.value? = some (max 0 (full - penalty * count : ℚ)))
    (kinds : ∀ i ∈ issues, i.kind = kind) (complete : check.isPartial = false)
    (passed : check.passed = true ↔ count = 0) :
    ((StageOutcome.of stage points check).withIssues issues).Charges stage kind full penalty
      part := by
  subst counted
  refine ⟨rfl, kinds, ?_⟩
  constructor
  · exact fun _ => ⟨value, passed⟩
  · intro degraded
    cases complete.symm.trans degraded

end StageOutcome.Charges

/-- The check of a count of findings: it is complete, and passes if there are none. -/
theorem Check.ofCount (count : ℕ) (name good bad : String) (details : List (String × Json)) :
    ((if count = 0 then Check.pass name good else Check.fail name bad).withDetails
        details).isPartial = false ∧
      (((if count = 0 then Check.pass name good else Check.fail name bad).withDetails
        details).passed = true ↔ count = 0) := by
  by_cases none : count = 0
  · rw [if_pos none]
    exact ⟨rfl, iff_of_true rfl none⟩
  · rw [if_neg none]
    exact ⟨rfl, iff_of_false Bool.false_ne_true none⟩

namespace LintStage

theorem partialOutcome_charges (reason : String) :
    (partialOutcome reason).Charges .lint .lint 25 5 (25 / 2) :=
  (StageOutcome.Charges.of_inPart Scoring.lintPartialPoints_value _ _).recommend _

theorem outcomeOf_charges (diagnostics : List Lint.Diagnostic) :
    (outcomeOf diagnostics).Charges .lint .lint 25 5 (25 / 2) := by
  unfold outcomeOf
  dsimp only
  generalize found : (diagnostics.filter (·.isSecurity)).map (·.issue) = issues
  have kinds : ∀ i ∈ issues, i.kind = .lint := by
    intro i listed
    rw [← found] at listed
    obtain ⟨d, -, rfl⟩ := List.mem_map.mp listed
    rfl
  obtain ⟨complete, passed⟩ := Check.ofCount issues.length checkName
    "No security issues reported by the linter"
    ("Linter reported " ++ toString issues.length ++ " security issue(s)")
    [("issue_count", Json.ofNat issues.length)]
  have value := Scoring.penalized_value 25 5 (by decide) (by decide) (by decide) issues.length
  have charges := StageOutcome.Charges.of_findings .lint (25 / 2) rfl value kinds complete passed
  split
  · exact charges.recommend _
  · exact charges

theorem run_charges (runner : Runner) (settings : ToolSettings) (ws : Option Workspace)
    (w : World) : ((run runner settings ws).run w).1.Charges .lint .lint 25 5 (25 / 2) := by
  obtain ⟨reason, ended⟩ | ⟨diagnostics, ended⟩ := run_cases runner settings ws w
  · rw [ended]
    exact partialOutcome_charges reason
  · rw [ended]
    exact outcomeOf_charges diagnostics

end LintStage

namespace AuditStage

theorem fullOutcome_charges (message : String) :
    (fullOutcome message).Charges .audit .dependency 15 3 12 := by
  have value : Scoring.auditMax.value? = some (max 0 ((15 : ℕ) - (3 : ℕ) * (0 : ℕ) : ℚ)) := by
    rw [Scoring.auditMax, Double.ofNat_value (by decide)]
    norm_num
  have no_kinds : ∀ i ∈ ([] : List Issue), i.kind = .dependency := by
    intro i listed
    cases listed
  exact StageOutcome.Charges.of_findings .audit 12 rfl value no_kinds rfl (iff_of_true rfl rfl)

theorem partialOutcome_charges (reason : String) :
    (partialOutcome reason).Charges .audit .dependency 15 3 12 :=
  StageOutcome.Charges.of_inPart Scoring.auditPartialPoints_value _ _

theorem outcomeOf_complete (packages : List Audit.Package) :
    (outcomeOf packages).check.isPartial = false := by
  unfold outcomeOf
  dsimp only
  split
  · exact (Check.ofCount ..).1
  · exact (Check.ofCount ..).1

theorem outcomeOf_charges (packages : List Audit.Package) :
    (outcomeOf packages).Charges .audit .dependency 15 3 12 := by
  unfold outcomeOf
  dsimp only
  have kinds : ∀ i ∈ packages.map (·.issue), i.kind = .dependency := by
    intro i listed
    obtain ⟨p, -, rfl⟩ := List.mem_map.mp listed
    rfl
  obtain ⟨complete, passed⟩ := Check.ofCount packages.length checkName
    "No vulnerable dependencies found"
    (toString packages.length ++ " vulnerable package(s) found")
    [("vulnerable_packages", Json.ofNat packages.length)]
  have value := Scoring.penalized_value 15 3 (by decide) (by decide) (by decide) packages.length
  have charges := StageOutcome.Charges.of_findings .audit 12 (List.length_map _) value kinds complete
    passed
  split
  · exact charges.recommend _
  · exact charges

theorem run_charges {runner : Runner} {settings : ToolSettings} {ws : Option Workspace} {w : World}
    {o : StageOutcome} (h : ((run runner settings ws).run w).1 = .ok o) :
    o.Charges .audit .dependency 15 3 12 := by
  obtain ⟨message, rfl⟩ | ⟨reason, rfl⟩ | ⟨packages, rfl⟩ := run_cases h
  · exact fullOutcome_charges message
  · exact partialOutcome_charges reason
  · exact outcomeOf_charges packages

end AuditStage

namespace PatternStage

theorem issue?_kind {source : Array Char} {p : Pattern} {i : Issue} (h : issue? source p = some i) :
    i.kind = .vulnerability := by
  unfold issue? at h
  split at h
  · cases h
  · cases h
    rfl

theorem issue?_matchCount (source : Array Char) (p : Pattern) :
    ((issue? source p).toList.map Issue.matchCount).sum = (p.regex.findAll source).length := by
  have length : (findMatches p source).length = (p.regex.findAll source).length :=
    List.length_map _
  rw [← length]
  cases found : findMatches p source with
  | nil =>
    rw [issue?, found]
    rfl
  | cons first rest =>
    rw [issue?, found]
    simp [Issue.matchCount]

/-- The issues of the vulnerable patterns tell of every match. -/
theorem sum_matchCount (patterns : List Pattern) (source : Array Char) :
    ((patterns.filterMap (issue? source)).map Issue.matchCount).sum =
      countMatches patterns source := by
  induction patterns with
  | nil => rfl
  | cons p patterns ih =>
    have first := issue?_matchCount source p
    rw [countMatches, List.map_cons, List.sum_cons, ← countMatches, ← ih, ← first]
    cases found : issue? source p with
    | none => rw [List.filterMap_cons_none found]; simp
    | some i => rw [List.filterMap_cons_some found]; simp

/-- An outcome of the pattern stage, whose matches are all reported and charged for. -/
structure Charges (o : StageOutcome) : Prop where
  stage_eq : o.stage = .pattern
  kinds : ∀ i ∈ o.issues, i.kind = .vulnerability
  charged : Matched o.check (o.issues.map Issue.matchCount).sum (some o.points)

theorem Charges.recommend {o : StageOutcome} (charges : Charges o) (text : String) :
    Charges (o.recommend text) :=
  ⟨charges.stage_eq, charges.kinds, charges.charged⟩

theorem checkOf_matched (category : String) (found : Resolution) (vulnerable secure : ℕ) :
    Matched (checkOf category found vulnerable secure) vulnerable
      (some (Scoring.patternPoints vulnerable secure)) := by
  constructor
  · exact ⟨_, secure, rfl, rfl, Scoring.patternPoints_value vulnerable secure⟩
  · exact (Check.ofCount vulnerable found.ruleSet.displayName (summary vulnerable secure)
      (summary vulnerable secure) _).2

theorem outcomeWith_charges (category : String) (found : Resolution) (source : Array Char) :
    Charges (outcomeWith category found source) := by
  unfold outcomeWith
  dsimp only
  have charges : Charges ((StageOutcome.of .pattern
      (Scoring.patternPoints (countMatches found.ruleSet.vulnerable source)
        (countMatches found.ruleSet.secure source))
      (checkOf category found (countMatches found.ruleSet.vulnerable source)
        (countMatches found.ruleSet.secure source))).withIssues
          (found.ruleSet.vulnerable.filterMap (issue? source))) := by
    refine ⟨rfl, ?_, ?_⟩
    · intro i listed
      obtain ⟨p, -, issued⟩ := List.mem_filterMap.mp listed
      exact issue?_kind issued
    · have matched := checkOf_matched category found (countMatches found.ruleSet.vulnerable source)
        (countMatches found.ruleSet.secure source)
      exact (sum_matchCount found.ruleSet.vulnerable source).symm ▸ matched
  split
  · split
    · exact charges.recommend _
    · exact charges
  · exact charges

end PatternStage

end FixGrader
