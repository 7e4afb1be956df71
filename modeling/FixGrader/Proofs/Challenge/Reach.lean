import FixGrader.Proofs.Disk.Writing
import FixGrader.Proofs.Path.Containment
import FixGrader.Proofs.Session.Run
import FixGrader.Proofs.Validation.Confinement
/-!
# The files that a challenge reaches

The paths of a challenge are joined to its workspace as they are. A path that is absolute, or that
climbs, may lead out of the workspace, and what lies there becomes part of the submission. Where all
paths stay in the workspace, nothing that is written outside of it counts.
-/
namespace FixGrader

/-- From a directory a path names what lies in it: an absolute one by its place, a relative one by
coming back through the levels that it climbs. -/
def Path.StaysIn (p : Path) (dir : Place) : Prop :=
  if p.isAbsolute then dir <+: p.place else dir.rtake p.climb <+: p.course.2

instance (p : Path) (dir : Place) : Decidable (p.StaysIn dir) :=
  inferInstanceAs (Decidable
    (if p.isAbsolute then dir <+: p.place else dir.rtake p.climb <+: p.course.2))

namespace Path

theorem staysIn_iff (p : Path) (dir : Place) : dir <+: p.placeFrom dir ↔ p.StaysIn dir := by
  rw [StaysIn]
  cases absolute : p.isAbsolute with
  | true =>
    rw [if_pos rfl, place, placeFrom_absolute absolute dir []]
  | false =>
    have around := Place.prefix_rdrop_append_iff dir [] p.course.2 p.climb
    rw [List.append_nil, List.append_nil] at around
    rw [if_neg Bool.false_ne_true, placeFrom_relative absolute]
    exact around

theorem join_staysIn_iff (workspace p : Path) (start : Place) :
    workspace.placeFrom start <+: (workspace.join p).placeFrom start ↔
      p.StaysIn (workspace.placeFrom start) := by
  rw [placeFrom_join]
  exact staysIn_iff p _

theorem staysIn_of_descending {p : Path} (relative : p.isAbsolute = false) (level : p.climb = 0)
    (dir : Place) : p.StaysIn dir := by
  rw [StaysIn, relative, if_neg Bool.false_ne_true, level, List.rtake_zero]
  exact List.nil_prefix

/-- No path that is absolute or climbs stays in both of two directories side by side. -/
theorem descending_of_staysIn {p : Path} (left : p.StaysIn ["a"]) (right : p.StaysIn ["b"]) :
    p.isAbsolute = false ∧ p.climb = 0 := by
  have apart : ∀ place : Place, ["a"] <+: place → ¬ ["b"] <+: place := by
    intro place first second
    rcases place with _ | ⟨name, place⟩
    · simp at first
    · rw [List.cons_prefix_cons] at first second
      exact absurd (first.1.trans second.1.symm) (by decide)
  unfold StaysIn at left right
  cases absolute : p.isAbsolute with
  | true =>
    rw [if_pos absolute] at left right
    exact absurd right (apart _ left)
  | false =>
    refine ⟨rfl, ?_⟩
    rw [absolute, if_neg Bool.false_ne_true] at left right
    cases climbed : p.climb with
    | zero => rfl
    | succ n =>
      have whole : ∀ name : String, [name].rtake (n + 1) = [name] := by
        intro name
        simp [List.rtake]
      rw [climbed, whole] at left right
      exact absurd right (apart _ left)

end Path

/-- All paths of a challenge stay in a directory that they are seen from. -/
def Challenge.StaysIn (c : Challenge) (dir : Place) : Prop := ∀ f ∈ c.files, f.path.StaysIn dir

instance (c : Challenge) (dir : Place) : Decidable (c.StaysIn dir) :=
  inferInstanceAs (Decidable (∀ f ∈ c.files, f.path.StaysIn dir))

theorem Challenge.staysIn_iff (c : Challenge) (workspace : Path) (start : Place) :
    (∀ p ∈ c.filePaths workspace, workspace.placeFrom start <+: p.placeFrom start) ↔
      c.StaysIn (workspace.placeFrom start) := by
  rw [filePaths, List.forall_mem_map]
  exact forall₂_congr fun f _ => Path.join_staysIn_iff workspace f.path start

theorem Challenge.staysIn_everywhere_iff (c : Challenge) :
    (∀ workspace : Path, workspace.isAbsolute = true →
      ∀ p ∈ c.filePaths workspace, workspace.place <+: p.place) ↔
      ∀ f ∈ c.files, f.path.isAbsolute = false ∧ f.path.climb = 0 := by
  constructor
  · intro everywhere f listed
    have left := (c.staysIn_iff ⟨"/a"⟩ []).mp (everywhere ⟨"/a"⟩ (by decide)) f listed
    have right := (c.staysIn_iff ⟨"/b"⟩ []).mp (everywhere ⟨"/b"⟩ (by decide)) f listed
    exact Path.descending_of_staysIn left right
  · intro descending workspace _
    refine (c.staysIn_iff workspace []).mpr fun f listed => ?_
    exact Path.staysIn_of_descending (descending f listed).1 (descending f listed).2 _

namespace Disk

/-- The directories of two disks are the same, and so is all that lies in one of them. -/
structure SameWithin (dir : Place) (d d' : Disk) : Prop where
  cwd : d'.cwd = d.cwd
  kept : KeepsDirectories d d'
  kept' : KeepsDirectories d' d
  entries : ∀ place, dir <+: place → d'.entry? place = d.entry? place

theorem step_enters {d : Disk} {place next : Place} {segment : List Char}
    (stepped : d.step place segment = .ok next) :
    next = (Path.componentOf segment).elim place (Path.Component.enter place) := by
  unfold step at stepped
  unfold Path.componentOf
  split at stepped
  · cases stepped
  · cases stepped
  · by_cases same : segment = [] ∨ segment = ['.']
    · rw [if_pos same] at stepped ⊢
      cases stepped
      rfl
    rw [if_neg same] at stepped ⊢
    by_cases up : segment = ['.', '.']
    · rw [if_pos up] at stepped ⊢
      cases stepped
      rfl
    rw [if_neg up] at stepped ⊢
    split at stepped
    · cases stepped
    · cases stepped
      rfl

theorem foldlM_step_enters {d : Disk} {place start : Place} {segments : List (List Char)}
    (found : segments.foldlM d.step start = .ok place) :
    place = (segments.filterMap Path.componentOf).foldl Path.Component.enter start := by
  induction segments generalizing start with
  | nil =>
    cases found
    rfl
  | cons segment segments ih =>
    rw [List.foldlM_cons] at found
    cases stepped : d.step start segment with
    | error e =>
      rw [stepped] at found
      cases found
    | ok next =>
      rw [stepped] at found
      rw [ih found, step_enters stepped, List.filterMap_cons]
      cases Path.componentOf segment <;> rfl

/-- What is found under a path lies at the place that the path names. -/
theorem locate_place {d : Disk} {p : Path} {place : Place} (found : d.locate p = .ok place) :
    place = p.placeFrom d.cwd := by
  unfold locate at found
  split at found
  · cases found
  split at found
  · cases found
  have whole := foldlM_step_enters found
  rw [Path.placeFrom_segments]
  cases absolute : p.isAbsolute with
  | false =>
    rw [absolute] at whole
    exact whole
  | true =>
    have first : p.segments.filterMap Path.componentOf =
        p.segments.tail.filterMap Path.componentOf := by
      obtain ⟨cs, text⟩ := List.head?_eq_some_iff.mp (by simpa [Path.isAbsolute] using absolute)
      rw [Path.segments, text, Path.splitSlashes, if_pos rfl]
      rfl
    rw [absolute] at whole
    rw [first]
    exact whole

end Disk

namespace Submission

/-- What is read of a challenge are its files as they are, and reading changes none of them. -/
theorem readChallenge_run (c : Challenge) (workspace : Path) (w : World) :
    ((readChallenge c workspace).run w).1 = ofChallenge w.disk c workspace ∧
      World.Same w ((readChallenge c workspace).run w).2 := by
  unfold readChallenge
  rw [Run.run_bind, read_run]
  exact ⟨rfl, read_same c.id c.category (c.filePaths workspace) w⟩

theorem textOf_readBytes (d : Disk) (p : Path) :
    textOf d p = match d.readBytes p with
      | .ok bytes => (Text.ofBytes? bytes).getD ""
      | .error _ => "" := by
  unfold textOf Disk.readText
  cases d.readBytes p with
  | error e => rfl
  | ok bytes =>
    simp only [bind, Except.bind]
    cases Text.ofBytes? bytes <;> rfl

theorem textOf_located {d : Disk} {p : Path} {place : Place} (found : d.locate p = .ok place) :
    textOf d p = match d.entry? place with
      | some (.file bytes true _ _) => (Text.ofBytes? bytes).getD ""
      | _ => "" := by
  rw [textOf_readBytes, Disk.readBytes, found]
  simp only [bind, Except.bind]
  cases d.entry? place with
  | none => rfl
  | some e =>
    cases e with
    | directory => rfl
    | file bytes readable => cases readable <;> rfl

theorem textOf_unlocated {d : Disk} {p : Path} {e : FileError} (missing : d.locate p = .error e) :
    textOf d p = "" := by
  rw [textOf_readBytes, Disk.readBytes, missing]
  rfl

/-- The text of a file in a directory depends on nothing that is written outside of it. -/
theorem textOf_sameWithin {dir : Place} {d d' : Disk} (same : Disk.SameWithin dir d d') {p : Path}
    (inside : dir <+: p.placeFrom d.cwd) : textOf d p = textOf d' p := by
  cases found : d.locate p with
  | ok place =>
    rw [← Disk.locate_place found] at inside
    rw [textOf_located found, textOf_located (same.kept.locate same.cwd found),
      same.entries place inside]
  | error e =>
    cases found' : d'.locate p with
    | error e' => rw [textOf_unlocated found, textOf_unlocated found']
    | ok place =>
      rw [same.kept'.locate same.cwd.symm found'] at found
      cases found

theorem ofChallenge_sameWithin {d d' : Disk} {c : Challenge} {workspace : Path}
    (stays : c.StaysIn (workspace.placeFrom d.cwd))
    (same : Disk.SameWithin (workspace.placeFrom d.cwd) d d') :
    ofChallenge d c workspace = ofChallenge d' c workspace := by
  have texts :
      (c.filePaths workspace).map (textOf d) = (c.filePaths workspace).map (textOf d') := by
    refine List.map_congr_left fun p listed => ?_
    exact textOf_sameWithin same ((c.staysIn_iff workspace d.cwd).mpr stays p listed)
  unfold ofChallenge ofFiles contentOf
  rw [texts]

end Submission

namespace Session

/-- Only a start puts another challenge in the stead of the one that is active. -/
theorem perform_kept {s : Session} {active : ActiveChallenge} (held : s.active = some active)
    {op : Operation} (waits : op.starts = false) :
    ∃ attempt, (s.perform op).2.active = some { active with attempt } := by
  cases op with
  | start => cases waits
  | startChallenge => cases waits
  | restart id now =>
    rw [perform, restart, held]
    exact ⟨_, rfl⟩
  | check build runner now w =>
    have step := check_step s build runner now w
    generalize (s.perform (.check build runner now w)).1 = reply at step
    generalize (s.perform (.check build runner now w)).2 = s' at step ⊢
    cases step with
    | begun _ begins => cases begins
    | idle nothing =>
      rw [held] at nothing
      cases nothing
    | closed => exact ⟨_, held⟩
    | degraded => exact ⟨_, held⟩
    | recorded held' =>
      rw [held] at held'
      cases held'
      exact ⟨_, rfl⟩

theorem resume_kept {s : Session} {active : ActiveChallenge} (held : s.active = some active)
    (past : List Exchange) {later : List Operation} (waits : ∀ op ∈ later, op.starts = false) :
    ∃ attempt, (resume (past, s) later).2.active = some { active with attempt } := by
  induction later generalizing s active past with
  | nil => exact ⟨_, held⟩
  | cons op later ih =>
    obtain ⟨attempt, kept⟩ := perform_kept held (waits op List.mem_cons_self)
    rw [resume, List.foldl_cons]
    exact ih kept _ fun op' listed => waits op' (List.mem_cons_of_mem op listed)

/-- From the start of a challenge until the next start, a check reads the challenge. -/
theorem submission_readChallenge (before : List Operation) (id : String) (now : Timestamp)
    (c : Challenge) (workspace : Path) {later : List Operation}
    (waits : ∀ op ∈ later, op.starts = false) :
    ∃ active, (run (before ++ .startChallenge id now c workspace :: later)).2.active = some active ∧
      submission active = Submission.readChallenge c workspace := by
  rw [run_append, resume, List.foldl_cons]
  obtain ⟨attempt, kept⟩ := resume_kept (s := ((run before).2.perform
    (.startChallenge id now c workspace)).2) rfl _ waits
  exact ⟨_, kept, rfl⟩

/-- What is checked is the challenge's files as they are. -/
theorem submission_of_startChallenge (before : List Operation) (id : String) (now : Timestamp)
    (c : Challenge) (workspace : Path) {later : List Operation}
    (waits : ∀ op ∈ later, op.starts = false) :
    ∃ active, (run (before ++ .startChallenge id now c workspace :: later)).2.active = some active ∧
      ∀ w, ((submission active).run w).1 = Submission.ofChallenge w.disk c workspace := by
  obtain ⟨active, held, reads⟩ := submission_readChallenge before id now c workspace waits
  refine ⟨active, held, fun w => ?_⟩
  rw [reads]
  exact (Submission.readChallenge_run c workspace w).1

end Session

/-- A challenge reaches only what lies in its workspace exactly if all its paths stay there, and in
every workspace exactly if all are relative and none climbs. Then all files that are read lie in the
workspace, and nothing that is written outside of it counts for the submission, which is also the
one that a session checks from the start of the challenge until the next start. -/
theorem Challenge.reaches_within_iff (c : Challenge) :
    (∀ (workspace : Path) (cwd : Place),
      (∀ p ∈ c.filePaths workspace, workspace.placeFrom cwd <+: p.placeFrom cwd) ↔
        c.StaysIn (workspace.placeFrom cwd)) ∧
    ((∀ workspace : Path, workspace.isAbsolute = true →
      ∀ p ∈ c.filePaths workspace, workspace.place <+: p.place) ↔
        ∀ f ∈ c.files, f.path.isAbsolute = false ∧ f.path.climb = 0) ∧
    (∀ (workspace : Path) (d : Disk), c.StaysIn (workspace.placeFrom d.cwd) →
      (∀ p ∈ (Submission.ofChallenge d c workspace).files, ∀ place, d.locate p = .ok place →
        workspace.placeFrom d.cwd <+: place) ∧
      ∀ d', Disk.SameWithin (workspace.placeFrom d.cwd) d d' →
        Submission.ofChallenge d c workspace = Submission.ofChallenge d' c workspace) ∧
    ∀ (workspace : Path) (before later : List Session.Operation) (id : String) (now : Timestamp),
      (∀ op ∈ later, op.starts = false) → ∃ active,
        (Session.run (before ++ .startChallenge id now c workspace :: later)).2.active =
          some active ∧
        ∀ w, ((Session.submission active).run w).1 = Submission.ofChallenge w.disk c workspace := by
  refine ⟨c.staysIn_iff, c.staysIn_everywhere_iff, ?_, ?_⟩
  · intro workspace d stays
    refine ⟨fun p listed place found => ?_, fun d' => Submission.ofChallenge_sameWithin stays⟩
    rw [Disk.locate_place found]
    exact (c.staysIn_iff workspace d.cwd).mpr stays p listed
  · intro workspace before later id now waits
    exact Session.submission_of_startChallenge before id now c workspace waits

/-- One path that leads out of the workspace and back, and an absolute one that leads into it. -/
def roundaboutChallenge : Challenge :=
  ⟨"challenge", "xss", "", "", [⟨⟨"../ws/a.js"⟩, ""⟩, ⟨⟨"/ws/b.js"⟩, ""⟩], [], [], []⟩

theorem Challenge.reaches_within_roundabout :
    (∀ p ∈ roundaboutChallenge.filePaths ⟨"/ws"⟩, ["ws"] <+: p.place) ∧
      ¬ ∀ p ∈ roundaboutChallenge.filePaths ⟨"/w"⟩, ["w"] <+: p.place := by
  obtain ⟨within, -⟩ := roundaboutChallenge.reaches_within_iff
  have stays : roundaboutChallenge.StaysIn ["ws"] := by decide +kernel
  have strays : ¬ roundaboutChallenge.StaysIn ["w"] := by decide +kernel
  exact ⟨(within ⟨"/ws"⟩ []).mpr stays, fun all => strays ((within ⟨"/w"⟩ []).mp all)⟩

def strayChallenge : Challenge :=
  ⟨"challenge", "xss", "", "", [⟨⟨"../secret.js"⟩, ""⟩], [], [], []⟩

/-- What lies beside the workspace is read, and becomes the submission. -/
theorem Challenge.reaches_beside :
    strayChallenge.filePaths ⟨"/ws"⟩ = [⟨"/ws/../secret.js"⟩] ∧
      ¬ ["ws"] <+: Path.place ⟨"/ws/../secret.js"⟩ ∧
      (Submission.ofChallenge ⟨[(["ws"], .directory true),
        (["secret.js"], .file (Text.toBytes "key") true false false)], []⟩ strayChallenge
          ⟨"/ws"⟩).content = "key" := by
  decide +kernel

end FixGrader
