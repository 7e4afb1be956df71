import FixGrader.Proofs.Rules.Ways
import FixGrader.Proofs.Validation.Account
import FixGrader.Proofs.Validation.Idempotence
import FixGrader.Validation.Report
/-!
# Results that are not complete

Whether a result is complete is told from its checks: by the flag of each one, and by the name of the
check of an error. The flags are those of the stages that were carried out in part. The name is also
open to the rule set that was found, which settings may call what they like.
-/
namespace FixGrader

/-- An outcome of a stage that was carried out only in part. -/
def StageOutcome.InPart (o : StageOutcome) : Prop :=
  (∃ reason, o = LintStage.partialOutcome reason) ∨ ∃ reason, o = AuditStage.partialOutcome reason

theorem StageOutcome.InPart.flagged {o : StageOutcome} (inPart : o.InPart) :
    o.check.isPartial = true := by
  obtain ⟨reason, rfl⟩ | ⟨reason, rfl⟩ := inPart
  · rfl
  · rfl

/-- The check of an outcome is flagged only for a stage carried out in part, and is not taken for
that of an error. -/
structure StageOutcome.Tells (o : StageOutcome) : Prop where
  inPart : o.check.isPartial = true → o.InPart
  named : o.check.name ≠ Validation.errorCheckName

theorem StageOutcome.Tells.of_complete {o : StageOutcome} (complete : o.check.isPartial = false)
    (named : o.check.name ≠ Validation.errorCheckName) : o.Tells := by
  refine ⟨fun flagged => ?_, named⟩
  rw [complete] at flagged
  cases flagged

theorem LintStage.checkName_ne : checkName ≠ Validation.errorCheckName := by decide

theorem LintStage.outcomeOf_tells (diagnostics : List Lint.Diagnostic) :
    (outcomeOf diagnostics).Tells := by
  obtain ⟨bare, named, check⟩ := (outcomeOf_counts diagnostics).check
  apply StageOutcome.Tells.of_complete
  · unfold outcomeOf
    dsimp only
    split
    · exact (Check.ofCount ..).1
    · exact (Check.ofCount ..).1
  · rw [check]
    exact named.trans_ne checkName_ne

theorem LintStage.run_tells (runner : Runner) (settings : ToolSettings) (ws : Option Workspace)
    (w : World) : ((run runner settings ws).run w).1.Tells := by
  obtain ⟨reason, ended⟩ | ⟨diagnostics, ended⟩ := run_cases runner settings ws w
  · rw [ended]
    exact ⟨fun _ => Or.inl ⟨reason, rfl⟩, checkName_ne⟩
  · rw [ended]
    exact outcomeOf_tells diagnostics

theorem AuditStage.checkName_ne : checkName ≠ Validation.errorCheckName := by decide

theorem AuditStage.run_tells {runner : Runner} {settings : ToolSettings} {ws : Option Workspace}
    {w : World} {o : StageOutcome} (h : ((run runner settings ws).run w).1 = .ok o) : o.Tells := by
  have named : o.check.name ≠ Validation.errorCheckName := (run_name h).trans_ne checkName_ne
  obtain ⟨message, rfl⟩ | ⟨reason, rfl⟩ | ⟨packages, rfl⟩ := run_cases h
  · exact .of_complete rfl named
  · exact ⟨fun _ => Or.inr ⟨reason, rfl⟩, named⟩
  · exact .of_complete (outcomeOf_complete packages) named

/-- The check of the patterns is never flagged, and is named by the rule set that was found. -/
theorem PatternStage.outcome_check (r : Registry) (category source : String) :
    (outcome r category source).check.isPartial = false ∧
      ((outcome r category source).check.name = Validation.errorCheckName ↔
        ∃ found, r.resolve category = some found ∧
          found.ruleSet.displayName = Validation.errorCheckName) := by
  unfold outcome
  cases r.resolve category with
  | none =>
    have other : "Pattern Validation" ≠ Validation.errorCheckName := by decide
    exact ⟨rfl, iff_of_false other (by simp)⟩
  | some found =>
    obtain ⟨_, same⟩ := outcomeWith_eq category found source.toList.toArray
    dsimp only
    rw [same]
    have named : ∀ vulnerable secure,
        (checkOf category found vulnerable secure).name = found.ruleSet.displayName :=
      fun _ _ => Check.ofVerdict_name ..
    exact ⟨(Check.ofCount ..).1, by simp [named]⟩

theorem Validation.isPartial_iff (s : Submission) (outcomes : List StageOutcome)
    (abort : Option FileError) (now : Timestamp) :
    (ofOutcomes s outcomes abort now).isPartial = true ↔
      (∃ o ∈ outcomes, o.check.isPartial = true ∨ o.check.name = errorCheckName) ∨
        abort.isSome = true := by
  cases abort with
  | none => simp [isPartial, ofOutcomes]
  | some e => simp [isPartial, ofOutcomes, errorCheck, Check.fail]

/-- Of the outcomes that a validation goes by, the first one is that of the patterns, and all others
are told from their checks. -/
theorem Validator.stages_tell (v : Validator) (runner : Runner) (s : Submission) (w : World) :
    ∃ tools : List StageOutcome, ((v.stages runner s).run w).1.1 =
        PatternStage.outcome v.registry s.category s.content :: tools ∧
      ∀ o ∈ tools, o.Tells := by
  have lint := LintStage.run_tells runner v.tools (Workspace.resolve s.workspace s.files)
  obtain ⟨w₁, w₂, ⟨e, -, stages⟩ | ⟨o, ended, stages⟩⟩ := v.stages_cases runner s w
  · rw [stages]
    exact ⟨_, rfl, by simpa using lint w₁⟩
  · rw [stages]
    exact ⟨_, rfl, by simpa using ⟨lint w₁, AuditStage.run_tells ended⟩⟩

theorem Validator.isPartial_iff (v : Validator) (runner : Runner) (now : Timestamp) (s : Submission)
    (w : World) : ((v.validate runner now s).run w).1.isPartial = true ↔
      (∃ o ∈ ((v.stages runner s).run w).1.1, o.InPart) ∨
      ((v.stages runner s).run w).1.2.isSome = true ∨
      ∃ found, v.registry.resolve s.category = some found ∧
        found.ruleSet.displayName = Validation.errorCheckName := by
  obtain ⟨tools, outcomes, tell⟩ := v.stages_tell runner s w
  obtain ⟨complete, named⟩ := PatternStage.outcome_check v.registry s.category s.content
  rw [(Validator.validate_run v runner s w now).1, Validation.isPartial_iff, outcomes]
  constructor
  · rintro (⟨o, listed, told⟩ | aborted)
    · rcases List.mem_cons.mp listed with rfl | later
      · rw [complete, named] at told
        exact Or.inr (Or.inr (told.resolve_left Bool.false_ne_true))
      · exact Or.inl ⟨o, listed, (tell o later).inPart (told.resolve_right (tell o later).named)⟩
    · exact Or.inr (Or.inl aborted)
  · rintro (⟨o, listed, inPart⟩ | aborted | misnamed)
    · exact Or.inl ⟨o, listed, Or.inl inPart.flagged⟩
    · exact Or.inr aborted
    · exact Or.inl ⟨_, List.mem_cons_self, Or.inr (named.mpr misnamed)⟩

namespace Registry

theorem mem_laid {sets held : List RuleSet} {s : RuleSet} (listed : s ∈ laid sets held) :
    s ∈ sets ∨ s ∈ held := by
  induction sets generalizing held with
  | nil => exact Or.inr listed
  | cons first sets ih =>
    rcases ih listed with later | put
    · exact Or.inl (List.mem_cons_of_mem first later)
    · rcases mem_putRuleSet put with rfl | before
      · exact Or.inl List.mem_cons_self
      · exact Or.inr before

theorem Compiled.exists_custom {custom : List CustomRuleSet} {sets : List RuleSet}
    (compiled : Compiled custom sets) {s : RuleSet} (listed : s ∈ sets) :
    ∃ c ∈ custom, RuleSet.ofCustom c = .ok s := by
  induction compiled with
  | nil => cases listed
  | cons first _ ih =>
    rcases List.mem_cons.mp listed with rfl | later
    · exact ⟨_, List.mem_cons_self, first⟩
    · obtain ⟨c, among, compiles⟩ := ih later
      exact ⟨c, List.mem_cons_of_mem _ among, compiles⟩

theorem mem_of_resolved {r : Registry} (consistent : r.Consistent) {category : String}
    {found : Resolution} (resolved : r.resolve category = some found) :
    found.ruleSet ∈ r.ruleSets := by
  obtain ⟨_, same, ways⟩ := resolves consistent category
  rw [resolved] at same
  cases same
  cases via : found.via with
  | category => exact (lookup_some (ways.of_category via)).1
  | otherName =>
    obtain ⟨target, -, looked⟩ := ways.of_otherName via
    exact (lookup_some looked).1
  | stem =>
    obtain ⟨stem, -, -, -, looked⟩ := ways.of_stem via
    exact (lookup_some looked).1
  | fallback => exact (lookup_some (ways.of_fallback via)).1

theorem builtIn_displayNames : ∀ s ∈ builtIn.ruleSets,
    s.displayName ≠ Validation.errorCheckName := by
  have names : Validation.errorCheckName ∉ builtIn.ruleSets.map (·.displayName) := by decide
  intro s listed same
  exact names (same ▸ List.mem_map_of_mem listed)

/-- A rule set can be named like the check of an error only by the settings. -/
theorem exists_misnamed {settings : RuleSettings} {r : Registry}
    (accepted : withSettings settings = .ok r) {category : String} {found : Resolution}
    (resolved : r.resolve category = some found)
    (misnamed : found.ruleSet.displayName = Validation.errorCheckName) :
    ∃ custom ∈ settings.custom,
      custom.displayName.getD custom.category = Validation.errorCheckName := by
  have listed := mem_of_resolved (consistent_of_accepted accepted) resolved
  obtain ⟨sets, compiled, -, rfl⟩ := withSettings_eq_ok_iff.mp accepted
  rcases mem_laid listed with laid | held
  · obtain ⟨custom, among, compiles⟩ := compiled.exists_custom laid
    obtain ⟨vulnerable, secure, -, -, same⟩ := ofCustom_eq_ok_iff.mp compiles
    rw [same] at misnamed
    exact ⟨custom, among, misnamed⟩
  · exact absurd misnamed (builtIn_displayNames _ held)

end Registry

namespace Report

def partialLine : String := "  Note: some checks could only be partially performed.\n"

/-- What follows the header begins with the note or with the line break before the checks. -/
theorem noted_iff (v : Validation) :
    (header v ++ partialLine).toList <+: (console v).toList ↔ v.isPartial = true := by
  have parts : (console v).toList = (header v).toList ++ ((partialNote v).toList ++
      ((checks v).toList ++ (issues v ++ recommendations v ++ "\n").toList)) := by
    simp only [console, String.toList_append, List.append_assoc]
  rw [parts, String.toList_append, List.prefix_append_right_inj, partialNote]
  cases v.isPartial with
  | true => exact iff_of_true (List.prefix_append partialLine.toList _) rfl
  | false =>
    obtain ⟨rest, blank⟩ : ∃ rest, partialLine.toList = ' ' :: rest := ⟨_, rfl⟩
    obtain ⟨rest', broken⟩ : ∃ rest', (checks v).toList = '\n' :: rest' := by
      rw [checks, String.toList_append]
      exact ⟨_, rfl⟩
    rw [blank, broken]
    simp

end Report

/-- A result counts as not complete exactly if the linter or the audit was carried out in part, or the
validation was broken off, or the rule set that was found is named like the check of an error. The
name can only come from the settings: without it the first three are all there is. The report says
so right below its header. -/
theorem validate_isPartial_iff (settings : Settings) (v : Validator)
    (accepted : Validator.ofSettings settings = .ok v) (runner : Runner) (now : Timestamp)
    (s : Submission) (w : World) :
    (((v.validate runner now s).run w).1.isPartial = true ↔
      (∃ o ∈ ((v.stages runner s).run w).1.1, o.InPart) ∨
      ((v.stages runner s).run w).1.2.isSome = true ∨
      ∃ found, v.registry.resolve s.category = some found ∧
        found.ruleSet.displayName = Validation.errorCheckName) ∧
    ((∀ custom ∈ settings.rules.custom,
        custom.displayName.getD custom.category ≠ Validation.errorCheckName) →
      (((v.validate runner now s).run w).1.isPartial = true ↔
        (∃ o ∈ ((v.stages runner s).run w).1.1, o.InPart) ∨
        ((v.stages runner s).run w).1.2.isSome = true)) ∧
    ((Report.header ((v.validate runner now s).run w).1 ++ Report.partialLine).toList <+:
        (Report.console ((v.validate runner now s).run w).1).toList ↔
      ((v.validate runner now s).run w).1.isPartial = true) := by
  have exactly := v.isPartial_iff runner now s w
  refine ⟨exactly, fun named => ?_, Report.noted_iff _⟩
  rw [exactly]
  refine or_congr_right (or_iff_left ?_)
  rintro ⟨found, resolved, misnamed⟩
  obtain ⟨custom, among, same⟩ :=
    Registry.exists_misnamed (Validator.registry_of_settings accepted) resolved misnamed
  exact named custom among same

def namedSettings (name : String) : Settings :=
  { rules := { custom := [{ category := "plain", displayName := some name }] } }

def plainSubmission : Submission := ⟨"challenge", "plain", [⟨"/w/a.js"⟩], "", none⟩

def preparedWorkspace : World :=
  .ofDisk ⟨[(["w"], .directory true),
    (["w", ".eslintrc.security.json"], .file (Text.toBytes "") true true false),
    (["w", "package.json"], .file (Text.toBytes
      "\x7b\"devDependencies\": \x7b\"eslint\": \"8\", \"eslint-plugin-security\": \"1\"\x7d\x7d")
        true true false)], []⟩

theorem not_inPart_of_flags {outcomes : List StageOutcome}
    (flags : (outcomes.all fun o => !o.check.isPartial) = true) : ∀ o ∈ outcomes, ¬ o.InPart := by
  intro o listed inPart
  have flag := List.all_eq_true.mp flags o listed
  rw [inPart.flagged] at flag
  cases flag

theorem validate_isPartial_named : ∃ v, Validator.ofSettings (namedSettings "Plain") = .ok v ∧
    ¬ (Report.header ((v.validate quietTools default plainSubmission).run preparedWorkspace).1 ++
        Report.partialLine).toList <+:
      (Report.console ((v.validate quietTools default plainSubmission).run
        preparedWorkspace).1).toList := by
  refine ⟨_, rfl, ?_⟩
  obtain ⟨-, told, noted⟩ := validate_isPartial_iff (namedSettings "Plain") _ rfl quietTools default
    plainSubmission preparedWorkspace
  rw [noted, told (by decide)]
  rintro (⟨o, listed, inPart⟩ | aborted)
  · exact not_inPart_of_flags (by decide +kernel) o listed inPart
  · exact absurd aborted (by decide +kernel)

/-- All stages are carried out in full, and the result still counts as not complete. -/
theorem validate_isPartial_misnamed :
    ∃ v, Validator.ofSettings (namedSettings "Validation Error") = .ok v ∧
      (∀ o ∈ ((v.stages quietTools plainSubmission).run preparedWorkspace).1.1, ¬ o.InPart) ∧
      ((v.stages quietTools plainSubmission).run preparedWorkspace).1.2.isSome = false ∧
      ((v.validate quietTools default plainSubmission).run preparedWorkspace).1.isPartial = true := by
  refine ⟨_, rfl, ?_, by decide +kernel, by decide +kernel⟩
  exact not_inPart_of_flags (by decide +kernel)

end FixGrader
