import FixGrader.Proofs.Validation.Account
/-!
# What a result is made of

A result is put together from the outcomes of the stages, in their order: their checks, the points of
each one that was carried out, all their issues, and their recommendations, each text where it is
recommended first. A validation that was broken off has the check of its error in the place of the
last stage, and no points for it.
-/
namespace FixGrader

/-- The texts of a list, in the order in which they occur in it first. -/
structure FirstOccurrences (texts firsts : List String) : Prop where
  mem_iff : ∀ t, t ∈ firsts ↔ t ∈ texts
  ordered : firsts.Pairwise fun a b => texts.idxOf a < texts.idxOf b

theorem FirstOccurrences.nodup {texts firsts : List String}
    (first : FirstOccurrences texts firsts) : firsts.Nodup := by
  refine first.ordered.imp fun {a b} before => ?_
  rintro rfl
  exact Nat.lt_irrefl _ before

/-- A text behind the others does not move the places where they first stand. -/
theorem FirstOccurrences.ordered_concat {texts firsts : List String}
    (first : FirstOccurrences texts firsts) (t : String) :
    firsts.Pairwise fun a b => (texts ++ [t]).idxOf a < (texts ++ [t]).idxOf b := by
  refine first.ordered.imp_of_mem fun {a b} inA inB before => ?_
  rw [List.idxOf_append_of_mem ((first.mem_iff a).mp inA),
    List.idxOf_append_of_mem ((first.mem_iff b).mp inB)]
  exact before

theorem FirstOccurrences.concat_seen {texts firsts : List String} {t : String}
    (first : FirstOccurrences texts firsts) (seen : t ∈ firsts) :
    FirstOccurrences (texts ++ [t]) firsts := by
  constructor
  · intro u
    rw [first.mem_iff, List.mem_append, List.mem_singleton]
    refine ⟨Or.inl, ?_⟩
    rintro (listed | rfl)
    · exact listed
    · exact (first.mem_iff u).mp seen
  · exact first.ordered_concat t

theorem FirstOccurrences.concat_new {texts firsts : List String} {t : String}
    (first : FirstOccurrences texts firsts) (unseen : t ∉ firsts) :
    FirstOccurrences (texts ++ [t]) (firsts ++ [t]) := by
  have absent : t ∉ texts := fun listed => unseen ((first.mem_iff t).mpr listed)
  constructor
  · intro u
    rw [List.mem_append, List.mem_append, first.mem_iff]
  · refine List.pairwise_append.mpr ⟨first.ordered_concat t, List.pairwise_singleton _ t, ?_⟩
    intro a inA b last
    obtain rfl := List.mem_singleton.mp last
    have listed : a ∈ texts := (first.mem_iff a).mp inA
    rw [List.idxOf_append_of_mem listed, List.idxOf_append_of_notMem absent]
    exact Nat.lt_add_right _ (List.idxOf_lt_length_of_mem listed)

theorem Validation.distinct_concat (texts : List String) (t : String) :
    distinct (texts ++ [t]) =
      if (distinct texts).contains t then distinct texts else distinct texts ++ [t] := by
  rw [distinct, List.foldl_append]
  rfl

theorem Validation.distinct_first (texts : List String) :
    FirstOccurrences texts (distinct texts) := by
  induction texts using List.reverseRecOn with
  | nil => exact ⟨fun _ => Iff.rfl, .nil⟩
  | append_singleton texts t ih =>
    rw [distinct_concat]
    by_cases seen : t ∈ distinct texts
    · rw [if_pos (List.contains_iff_mem.mpr seen)]
      exact ih.concat_seen seen
    · rw [if_neg (fun listed => seen (List.contains_iff_mem.mp listed))]
      exact ih.concat_new seen

theorem PatternStage.outcome_name {r : Registry} {category : String} {found : Resolution}
    (resolved : r.resolve category = some found) (source : String) :
    (outcome r category source).check.name = found.ruleSet.displayName := by
  obtain ⟨_, same⟩ := outcomeWith_eq category found source.toList.toArray
  rw [outcome, resolved]
  dsimp only
  rw [same]
  exact Check.ofVerdict_name ..

theorem LintStage.run_name (runner : Runner) (settings : ToolSettings) (ws : Option Workspace)
    (w : World) : ((run runner settings ws).run w).1.check.name = checkName := by
  obtain ⟨reason, ended⟩ | ⟨diagnostics, ended⟩ := run_cases runner settings ws w
  · rw [ended]
    rfl
  · obtain ⟨bare, named, check⟩ := (outcomeOf_counts diagnostics).check
    rw [ended, check]
    exact named

/-- A result that is put together from what the stages yielded, where the last one may have broken
the validation off. The first check has the name of a rule set. -/
structure Validation.Composed (r : Validation) (name : String) (pattern lint : StageOutcome)
    (audit : Except FileError StageOutcome) : Prop where
  names : r.checks.map (·.name) = [name, "Static Analysis",
    match audit with | .ok _ => "Dependency Scan" | .error _ => "Validation Error"]
  checks : r.checks = [pattern.check, lint.check,
    match audit with | .ok o => o.check | .error e => errorCheck e]
  /-- There are points exactly for the stages that have a check of their own. -/
  subScores : r.subScores = ⟨some pattern.points, some lint.points, audit.toOption.map (·.points)⟩
  issues : r.issues = pattern.issues ++ lint.issues ++ audit.toOption.toList.flatMap (·.issues)
  vulnerabilities : ∀ i ∈ pattern.issues, i.kind = .vulnerability
  diagnostics : ∀ i ∈ lint.issues, i.kind = .lint
  dependencies : ∀ i ∈ audit.toOption.toList.flatMap (·.issues), i.kind = .dependency
  recommendations : FirstOccurrences (pattern.recommendations ++ lint.recommendations ++
    audit.toOption.toList.flatMap (·.recommendations)) r.recommendations

theorem Validation.composed_gathered (s : Submission) (now : Timestamp) {name : String}
    {pattern lint : StageOutcome} {audit : Except FileError StageOutcome}
    (patterns : PatternStage.Charges pattern) (named : pattern.check.name = name)
    (linter : lint.Charges .lint .lint 25 5 (25 / 2)) (named' : lint.check.name = LintStage.checkName)
    (audited : ∀ o, audit = .ok o → o.Charges .audit .dependency 15 3 12 ∧
      o.check.name = AuditStage.checkName) :
    (ofOutcomes s (Validator.gathered pattern lint audit).1
      (Validator.gathered pattern lint audit).2 now).Composed name pattern lint audit := by
  cases audit with
  | error e =>
    have points := SubScores.ofOutcomes_eq none patterns.stage_eq linter.stage_eq
      fun o absent => absurd absent (Option.not_mem_none o)
    refine ⟨?_, rfl, points, ?_, patterns.kinds, linter.kinds, ?_, ?_⟩
    · rw [← named]
      exact congrArg (fun second => [pattern.check.name, second, "Validation Error"]) named'
    · simp [Validator.gathered, ofOutcomes, Except.toOption]
    · exact fun i absent => absurd absent List.not_mem_nil
    · simpa [Validator.gathered, ofOutcomes, Except.toOption] using
        distinct_first (pattern.recommendations ++ lint.recommendations)
  | ok o =>
    obtain ⟨charges, named''⟩ := audited o rfl
    have points := SubScores.ofOutcomes_eq (some o) patterns.stage_eq linter.stage_eq
      fun o' same => Option.mem_some_iff.mp same ▸ charges.stage_eq
    refine ⟨?_, rfl, points, ?_, patterns.kinds, linter.kinds, ?_, ?_⟩
    · rw [← named]
      have names : [pattern.check.name, lint.check.name, o.check.name] =
          [pattern.check.name, LintStage.checkName, AuditStage.checkName] := by
        rw [named', named'']
      exact names
    · simp [Validator.gathered, ofOutcomes, Except.toOption]
    · simpa [Except.toOption] using charges.kinds
    · simpa [Validator.gathered, ofOutcomes, Except.toOption] using
        distinct_first (pattern.recommendations ++ lint.recommendations ++ o.recommendations)

/-- Every result is put together from what the stages yielded, one after the other, and nothing is
lost, merged or repeated: the checks, the points, the issues and the recommendations. The first check
has the name of the rule set that the category leads to. -/
theorem validate_composed (settings : Settings) (v : Validator)
    (accepted : Validator.ofSettings settings = .ok v) (runner : Runner) (now : Timestamp)
    (s : Submission) (w : World) :
    ∃ found w₁ w₂, v.registry.resolve s.category = some found ∧
      World.Same ((PatternStage.run v.registry s.category s.content).run w).2 w₁ ∧
      World.Same ((LintStage.run runner v.tools (Workspace.resolve s.workspace s.files)).run w₁).2 w₂ ∧
      ((v.validate runner now s).run w).1.recommendations.Nodup ∧
      ((v.validate runner now s).run w).1.Composed found.ruleSet.displayName
        ((PatternStage.run v.registry s.category s.content).run w).1
        ((LintStage.run runner v.tools (Workspace.resolve s.workspace s.files)).run w₁).1
        ((AuditStage.run runner v.tools (Workspace.resolve s.workspace s.files)).run w₂).1 := by
  have consistent := Validator.consistent_of_settings accepted
  obtain ⟨found, resolved⟩ := Option.isSome_iff_exists.mp (consistent.resolve_isSome s.category)
  obtain ⟨w₁, w₂, before, between, together, -⟩ := Validator.stages_run v runner s w
  obtain ⟨pattern, kept⟩ := PatternStage.run_eq v.registry s.category s.content w
  have audited : ∀ o, ((AuditStage.run runner v.tools
      (Workspace.resolve s.workspace s.files)).run w₂).1 = .ok o →
        o.Charges .audit .dependency 15 3 12 ∧ o.check.name = AuditStage.checkName :=
    fun o ended => ⟨AuditStage.run_charges ended, AuditStage.run_name ended⟩
  have composed := Validation.composed_gathered s now
    (PatternStage.outcome_charges consistent s.category s.content)
    (PatternStage.outcome_name resolved s.content)
    (LintStage.run_charges runner v.tools (Workspace.resolve s.workspace s.files) w₁)
    (LintStage.run_name runner v.tools (Workspace.resolve s.workspace s.files) w₁) audited
  rw [(Validator.validate_run v runner s w now).1, together, pattern]
  refine ⟨found, w₁, w₂, resolved, ?_, between, composed.recommendations.nodup, composed⟩
  exact kept.symm.trans before

/-- A rule set that recommends what the lint stage recommends as well. -/
def echoRules : CustomRuleSet where
  category := "plain"
  displayName := some "Plain"
  recommendation := some "Resolve the eslint-plugin-security findings listed above."
  vulnerable := ["eval"]

def echoSettings : Settings := { rules := { custom := [echoRules] } }

/-- With matches, a diagnostic and a package, each stage has an issue, and what two stages recommend
is recommended once. -/
theorem validate_composed_echo : ∃ r : Validation,
    r = ((Validator.ofUsable echoSettings).validate (reportingTools lintedText auditedText) default
      equippedSubmission |>.run equippedWorkspace).1 ∧
    (∃ name pattern lint audit, r.Composed name pattern lint audit) ∧
    r.checks.map (·.name) = ["Plain", "Static Analysis", "Dependency Scan"] ∧
    r.issues.map (·.kind) = [.vulnerability, .lint, .dependency] ∧
    r.recommendations = ["Resolve the eslint-plugin-security findings listed above.",
      "Upgrade the vulnerable packages (npm audit fix) or replace them."] := by
  have usable : (Validator.ofSettings echoSettings).toBool = true := by decide +kernel
  have accepted := Validator.ofUsable_accepted usable
  obtain ⟨found, w₁, w₂, -, -, -, -, composed⟩ := validate_composed echoSettings _ accepted
    (reportingTools lintedText auditedText) default equippedSubmission equippedWorkspace
  exact ⟨_, rfl, ⟨_, _, _, _, composed⟩, by decide +kernel⟩

end FixGrader
