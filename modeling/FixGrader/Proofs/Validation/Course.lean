import FixGrader.Proofs.Stage.Course
/-!
# The course of a validation

A validation is its three stages, one after the other, and the assembly of their outcomes. Notes
stand between the stages; they change nothing that a later stage looks at.
-/
namespace FixGrader

/-- The points of the stages, each one found by its stage. -/
theorem SubScores.ofOutcomes_eq {pattern lint : StageOutcome} (audit : Option StageOutcome)
    (first : pattern.stage = .pattern) (second : lint.stage = .lint)
    (third : ∀ o ∈ audit, o.stage = .audit) : ofOutcomes (pattern :: lint :: audit.toList) =
      ⟨some pattern.points, some lint.points, audit.map (·.points)⟩ := by
  cases audit with
  | none => simp [ofOutcomes, pointsOf, first, second]
  | some o => simp [ofOutcomes, pointsOf, first, second, third o rfl]

namespace Validator

/-- The outcomes that a validation goes by, and the error that broke it off. -/
def gathered (pattern lint : StageOutcome) :
    Except FileError StageOutcome → List StageOutcome × Option FileError
  | .error e => ([pattern, lint], some e)
  | .ok audit => ([pattern, lint, audit], none)

theorem gathered_broken {pattern lint : StageOutcome} {audit : Except FileError StageOutcome}
    {outcomes : List StageOutcome} {e : FileError}
    (h : gathered pattern lint audit = (outcomes, some e)) :
    outcomes = [pattern, lint] ∧ audit = .error e := by
  cases audit with
  | error e' =>
    cases h
    exact ⟨rfl, rfl⟩
  | ok o => cases h

theorem gathered_broken_iff {pattern lint : StageOutcome} {audit : Except FileError StageOutcome}
    {e : FileError} : (gathered pattern lint audit).2 = some e ↔ audit = .error e := by
  cases audit <;> simp [gathered]

theorem gathered_complete {pattern lint : StageOutcome} {audit : Except FileError StageOutcome}
    {outcomes : List StageOutcome} (h : gathered pattern lint audit = (outcomes, none)) :
    ∃ o, outcomes = [pattern, lint, o] ∧ audit = .ok o := by
  cases audit with
  | error e => cases h
  | ok o =>
    cases h
    exact ⟨o, rfl, rfl⟩

theorem noteStage_same (o : StageOutcome) (w : World) :
    World.Same w ((noteStage o).run w).2 := Run.note_same _ _ _ _ _

theorem noteResult_same (abort : Option FileError) (result : Validation) (w : World) :
    World.Same w ((noteResult abort result).run w).2 := by
  cases abort <;> exact ⟨rfl, rfl, rfl⟩

variable (v : Validator) (runner : Runner) (s : Submission) (w : World)

/-- The stages in order, each one in the world that the stage before left. -/
theorem stages_run : ∃ w₁ w₂, World.Same w w₁ ∧
    World.Same ((LintStage.run runner v.tools (Workspace.resolve s.workspace s.files)).run w₁).2 w₂ ∧
    ((v.stages runner s).run w).1 =
      gathered (PatternStage.outcome v.registry s.category s.content)
        ((LintStage.run runner v.tools (Workspace.resolve s.workspace s.files)).run w₁).1
        ((AuditStage.run runner v.tools (Workspace.resolve s.workspace s.files)).run w₂).1 ∧
    World.Same
      ((AuditStage.run runner v.tools (Workspace.resolve s.workspace s.files)).run w₂).2
      ((v.stages runner s).run w).2 := by
  obtain ⟨pattern, same⟩ := PatternStage.run_eq v.registry s.category s.content w
  unfold stages
  simp only [Run.run_bind]
  rw [pattern]
  have before := same.trans (noteStage_same (PatternStage.outcome v.registry s.category s.content)
    ((PatternStage.run v.registry s.category s.content).run w).2)
  revert before
  generalize ((noteStage (PatternStage.outcome v.registry s.category s.content)).run
    ((PatternStage.run v.registry s.category s.content).run w).2).2 = w₁
  intro before
  refine ⟨w₁, ?_⟩
  generalize (LintStage.run runner v.tools (Workspace.resolve s.workspace s.files)).run w₁ = lint
  have between := noteStage_same lint.1 lint.2
  revert between
  generalize ((noteStage lint.1).run lint.2).2 = w₂
  intro between
  refine ⟨w₂, before, between, ?_⟩
  generalize (AuditStage.run runner v.tools (Workspace.resolve s.workspace s.files)).run w₂ = audit
  obtain ⟨e | o, w₃⟩ := audit
  · exact ⟨rfl, .rfl⟩
  · exact ⟨rfl, noteStage_same o w₃⟩

/-- A validation goes by the outcomes of all stages, or by those before the audit and an error. -/
theorem stages_cases : ∃ w₁ w₂,
    (∃ e, ((AuditStage.run runner v.tools (Workspace.resolve s.workspace s.files)).run w₂).1 =
        .error e ∧
      ((v.stages runner s).run w).1 =
        ([PatternStage.outcome v.registry s.category s.content,
          ((LintStage.run runner v.tools (Workspace.resolve s.workspace s.files)).run w₁).1],
          some e)) ∨
    ∃ o, ((AuditStage.run runner v.tools (Workspace.resolve s.workspace s.files)).run w₂).1 =
        .ok o ∧
      ((v.stages runner s).run w).1 =
        ([PatternStage.outcome v.registry s.category s.content,
          ((LintStage.run runner v.tools (Workspace.resolve s.workspace s.files)).run w₁).1, o],
          none) := by
  obtain ⟨w₁, w₂, -, -, together, -⟩ := stages_run v runner s w
  refine ⟨w₁, w₂, ?_⟩
  rw [together]
  cases ((AuditStage.run runner v.tools (Workspace.resolve s.workspace s.files)).run w₂).1 with
  | error e => exact Or.inl ⟨e, rfl, rfl⟩
  | ok o => exact Or.inr ⟨o, rfl, rfl⟩

/-- What holds of the outcome of each stage holds of all outcomes of a validation. -/
theorem stages_forall {P : StageOutcome → Prop}
    (pattern : P (PatternStage.outcome v.registry s.category s.content))
    (lint : ∀ w, P ((LintStage.run runner v.tools (Workspace.resolve s.workspace s.files)).run w).1)
    (audit : ∀ w o, ((AuditStage.run runner v.tools
      (Workspace.resolve s.workspace s.files)).run w).1 = .ok o → P o) :
    ∀ o ∈ ((v.stages runner s).run w).1.1, P o := by
  obtain ⟨w₁, w₂, ⟨e, -, stages⟩ | ⟨o, ended, stages⟩⟩ := stages_cases v runner s w
  · rw [stages]
    simp only [List.forall_mem_cons]
    exact ⟨pattern, lint w₁, List.forall_mem_nil _⟩
  · rw [stages]
    simp only [List.forall_mem_cons]
    exact ⟨pattern, lint w₁, audit w₂ o ended, List.forall_mem_nil _⟩

theorem validate_run (now : Timestamp) :
    ((v.validate runner now s).run w).1 =
        Validation.ofOutcomes s ((v.stages runner s).run w).1.1 ((v.stages runner s).run w).1.2 now ∧
      World.Same ((v.stages runner s).run w).2 ((v.validate runner now s).run w).2 :=
  ⟨rfl, noteResult_same _ _ _⟩

end Validator

end FixGrader
