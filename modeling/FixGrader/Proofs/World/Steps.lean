import FixGrader.Workspace
import FixGrader.Tool.Manifest
import FixGrader.World
/-!
# Steps of a run

What the steps of a run do to the files and to the list of calls. Notes of events change neither, so
that two worlds which differ in their events only are the same for all later steps.
-/
namespace FixGrader

/-- Worlds with the same files and the same calls so far, which have ended in both or in neither. -/
structure World.Same (w w' : World) : Prop where
  disk : w'.disk = w.disk
  calls : w'.calls = w.calls
  ends : w'.ends = w.ends

theorem World.Same.rfl {w : World} : World.Same w w := ⟨Eq.refl _, Eq.refl _, Eq.refl _⟩

theorem World.Same.symm {w w' : World} (h : World.Same w w') : World.Same w' w :=
  ⟨h.1.symm, h.2.symm, h.3.symm⟩

theorem World.Same.trans {w₁ w₂ w₃ : World} (h : World.Same w₁ w₂) (h' : World.Same w₂ w₃) :
    World.Same w₁ w₃ := ⟨h'.1.trans h.1, h'.2.trans h.2, h'.3.trans h.3⟩

namespace Run
variable {α β : Type}

theorem run_bind (x : Run α) (f : α → Run β) (w : World) :
    (x >>= f).run w = (f (x.run w).1).run (x.run w).2 := rfl

theorem note_same (level : Log.Level) (target message : String)
    (fields : List (String × Log.Value)) (w : World) :
    World.Same w ((note level target message fields).run w).2 := ⟨rfl, rfl, rfl⟩

theorem run_disk (w : World) : Run.disk.run w = (w.disk, w) := rfl

end Run

def Workspace.manifest (ws : Workspace) : Path := ws.root.join ⟨Manifest.fileName⟩

namespace Runner

/-- A property of the files that no call takes away. -/
def Preserves (runner : Runner) (P : Disk → Prop) : Prop :=
  ∀ calls disk i, P disk → P (runner calls disk i).disk

/-- A runner whose calls leave a file alone: it is there afterwards if it was before, and reading it
gives what it gave before. -/
def Spares (runner : Runner) (path : Path) : Prop :=
  ∀ calls disk i, (runner calls disk i).disk.exists? path = disk.exists? path ∧
    (runner calls disk i).disk.readText path = disk.readText path

/-- A runner that answers each call in its own way, whatever went before, and writes no file. -/
def answering (reply : Invocation → Except Tool.Failure Tool.Output) : Runner :=
  fun _ disk i => ⟨reply i, disk, [], true⟩

/-- Asks whether a program is there, and if so makes a call, whose output is read. -/
def inquire {α : Type} (runner : Runner) (program : String) (timeout : Nat) (i : Invocation)
    (read : Tool.Output → Except Tool.Failure α) : Run (Except Tool.Failure α) := do
  match ← runner.probe program timeout with
  | .error failure => return .error failure
  | .ok () =>
    match ← runner.call i with
    | .error failure => return .error failure
    | .ok output => return read output

theorem call_keeps {runner : Runner} {P : Disk → Prop} (keeps : runner.Preserves P)
    (i : Invocation) {w : World} (h : P w.disk) : P ((runner.call i).run w).2.disk :=
  keeps w.calls w.disk i h

theorem probe_disk (runner : Runner) (program : String) (timeout : Nat) (w : World) :
    ((runner.probe program timeout).run w).2 =
      ((runner.call (.probe program timeout)).run w).2 := by
  simp only [probe, Run.run_bind]
  split <;> rfl

theorem probe_keeps {runner : Runner} {P : Disk → Prop} (keeps : runner.Preserves P)
    (program : String) (timeout : Nat) {w : World} (h : P w.disk) :
    P ((runner.probe program timeout).run w).2.disk := by
  rw [probe_disk]
  exact call_keeps keeps _ h

theorem Spares.preserves {runner : Runner} {path : Path} (spares : runner.Spares path)
    (text : String) : runner.Preserves (fun d => d.readText path = .ok text) :=
  fun calls disk i h => ((spares calls disk i).2).trans h

end Runner

end FixGrader
