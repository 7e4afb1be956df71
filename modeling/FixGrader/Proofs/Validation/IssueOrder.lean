import Mathlib.Data.List.Forall2
import FixGrader.Validation.Report
/-!
# The order of the issues in a report

A report for reading shows the issues from the most to the least severe. They are sorted by a sort
that keeps the order of those that are equally severe, so that three groups come out, each of them
in the order of the result. How the groups were mixed in the result does not show.
-/
namespace FixGrader.Report
variable {issues : List Issue} {s : Severity}

def ofSeverity (s : Severity) (issues : List Issue) : List Issue :=
  issues.filter (·.severity = s)

def Descending (issues : List Issue) : Prop :=
  issues.Pairwise fun a b => b.severity.rank ≤ a.severity.rank

theorem mem_ofSeverity {i : Issue} : i ∈ ofSeverity s issues ↔ i ∈ issues ∧ i.severity = s := by
  rw [ofSeverity, List.mem_filter, decide_eq_true_iff]

/-- Issues in descending order are those from a rank on, and behind them those below it. -/
theorem Descending.split (descending : Descending issues) (rank : Nat) :
    issues = issues.filter (rank ≤ ·.severity.rank) ++ issues.filter (·.severity.rank < rank) := by
  induction issues with
  | nil => rfl
  | cons i issues ih =>
    obtain ⟨behind, rest⟩ := List.pairwise_cons.mp descending
    by_cases reached : rank ≤ i.severity.rank
    · have above : ¬ i.severity.rank < rank := by omega
      rw [List.filter_cons_of_pos (by simpa using reached),
        List.filter_cons_of_neg (by simpa using above), List.cons_append]
      exact congrArg (i :: ·) (ih rest)
    · have below : ∀ j ∈ i :: issues, j.severity.rank < rank := by
        intro j listed
        rcases List.mem_cons.mp listed with rfl | later
        · omega
        · have less : j.severity.rank ≤ i.severity.rank := behind j later
          omega
      have none : (i :: issues).filter (rank ≤ ·.severity.rank) = [] :=
        List.filter_eq_nil_iff.mpr fun j listed => by simpa using below j listed
      have all : (i :: issues).filter (·.severity.rank < rank) = i :: issues :=
        List.filter_eq_self.mpr fun j listed => by simpa using below j listed
      rw [none, all, List.nil_append]

/-- Issues in descending order are those of each severity, one group after the other. -/
theorem Descending.eq_groups (descending : Descending issues) :
    issues = ofSeverity .high issues ++ (ofSeverity .medium issues ++ ofSeverity .low issues) := by
  have high : issues.filter (2 ≤ ·.severity.rank) = ofSeverity .high issues :=
    List.filter_congr fun i _ => by cases i.severity <;> decide
  have first := descending.split 2
  have below : Descending (issues.filter (·.severity.rank < 2)) :=
    List.Pairwise.sublist List.filter_sublist descending
  have second := below.split 1
  have medium : (issues.filter (·.severity.rank < 2)).filter (1 ≤ ·.severity.rank) =
      ofSeverity .medium issues := by
    rw [List.filter_filter]
    exact List.filter_congr fun i _ => by cases i.severity <;> decide
  have low : (issues.filter (·.severity.rank < 2)).filter (·.severity.rank < 1) =
      ofSeverity .low issues := by
    rw [List.filter_filter]
    exact List.filter_congr fun i _ => by cases i.severity <;> decide
  rw [medium, low] at second
  rw [high, second] at first
  exact first

theorem rank_trans (a b c : Issue) (ab : decide (b.severity.rank ≤ a.severity.rank) = true)
    (bc : decide (c.severity.rank ≤ b.severity.rank) = true) :
    decide (c.severity.rank ≤ a.severity.rank) = true := by
  simp only [decide_eq_true_eq] at ab bc ⊢
  omega

theorem rank_total (a b : Issue) : (decide (b.severity.rank ≤ a.severity.rank) ||
    decide (a.severity.rank ≤ b.severity.rank)) = true := by
  simp only [Bool.or_eq_true, decide_eq_true_eq]
  omega

theorem bySeverity_perm (issues : List Issue) : (bySeverity issues).Perm issues :=
  List.mergeSort_perm _ _

theorem bySeverity_descending (issues : List Issue) : Descending (bySeverity issues) :=
  (List.pairwise_mergeSort rank_trans rank_total issues).imp of_decide_eq_true

/-- Sorting keeps the order of the issues of one severity. -/
theorem ofSeverity_bySeverity (s : Severity) (issues : List Issue) :
    ofSeverity s (bySeverity issues) = ofSeverity s issues := by
  -- a group needs no sorting, so it is found in the sorted issues in the order it has
  have alike : (ofSeverity s issues).Pairwise
      fun a b => decide (b.severity.rank ≤ a.severity.rank) = true := by
    refine List.pairwise_filter.mpr (List.pairwise_of_forall fun a b inGroup inGroup' => ?_)
    rw [of_decide_eq_true inGroup, of_decide_eq_true inGroup']
    exact decide_eq_true (Nat.le_refl _)
  have kept : (ofSeverity s issues).Sublist (bySeverity issues) :=
    List.sublist_mergeSort rank_trans rank_total alike List.filter_sublist
  have group : ofSeverity s (ofSeverity s issues) = ofSeverity s issues :=
    List.filter_eq_self.mpr fun i inGroup => decide_eq_true (mem_ofSeverity.mp inGroup).2
  have within : (ofSeverity s issues).Sublist (ofSeverity s (bySeverity issues)) := by
    rw [← group]
    exact kept.filter _
  have length : (ofSeverity s issues).length = (ofSeverity s (bySeverity issues)).length :=
    ((bySeverity_perm issues).filter _).length_eq.symm
  exact (within.eq_of_length length).symm

theorem bySeverity_eq_groups (issues : List Issue) :
    bySeverity issues =
      ofSeverity .high issues ++ (ofSeverity .medium issues ++ ofSeverity .low issues) := by
  have sorted := (bySeverity_descending issues).eq_groups
  simp only [ofSeverity_bySeverity] at sorted
  exact sorted

/-- The word for the kind of a finding, and where a report says that it is. -/
inductive Located : Issue.Detail → String → String → Prop where
  | pattern (pattern : String) (matched : List String) :
    Located (.vulnerability pattern matched none) "vulnerability" ("pattern " ++ pattern)
  | patternLine (pattern : String) (matched : List String) (line : Nat) :
    Located (.vulnerability pattern matched (some line)) "vulnerability"
      ("line " ++ toString line ++ " (pattern " ++ pattern ++ ")")
  | rule (rule : String) : Located (.lint rule none none) "static-analysis" ("- (" ++ rule ++ ")")
  | ruleLine (rule : String) (line : Nat) :
    Located (.lint rule none (some line)) "static-analysis"
      ("-:" ++ toString line ++ " (" ++ rule ++ ")")
  | ruleFile (rule : String) (file : Path) :
    Located (.lint rule (some file) none) "static-analysis" (file.text ++ " (" ++ rule ++ ")")
  | ruleFileLine (rule : String) (file : Path) (line : Nat) :
    Located (.lint rule (some file) (some line)) "static-analysis"
      (file.text ++ ":" ++ toString line ++ " (" ++ rule ++ ")")
  | package (package : String) (title : Option String) :
    Located (.dependency package title) "dependency" ("package " ++ package)

/-- A text that shows an issue: how severe it is, its kind, its message and where it is. -/
inductive Block (i : Issue) : String → Prop where
  | shown (tag kind place : String)
      (tagged : (i.severity, tag) ∈
        [(.high, "[HIGH]  "), (.medium, "[MEDIUM]"), (.low, "[LOW]   ")])
      (located : Located i.detail kind place) :
    Block i ("  " ++ tag ++ " " ++ kind ++ " " ++ i.message ++ "\n           at " ++ place ++ "\n")

theorem Located.unique {detail : Issue.Detail} {kind kind' place place' : String}
    (located : Located detail kind place) (located' : Located detail kind' place') :
    kind' = kind ∧ place' = place := by
  cases located <;> cases located' <;> exact ⟨rfl, rfl⟩

/-- An issue is shown by one text only. -/
theorem Block.unique {i : Issue} {text text' : String} (block : Block i text)
    (block' : Block i text') : text' = text := by
  obtain ⟨tag, kind, place, tagged, located⟩ := block
  obtain ⟨tag', kind', place', tagged', located'⟩ := block'
  obtain ⟨rfl, rfl⟩ := located.unique located'
  have tags : tag' = tag := by
    revert tagged tagged'
    cases i.severity <;> simp_all
  rw [tags]

theorem location_shows (detail : Issue.Detail) :
    Located detail detail.kind.text (location detail) := by
  cases detail with
  | vulnerability pattern matched line =>
    cases line with
    | none => exact .pattern pattern matched
    | some line => exact .patternLine pattern matched line
  | lint rule file line =>
    have written : ∀ {place : String}, Located (.lint rule file line) "static-analysis" place →
        (location (.lint rule file line)).toList = place.toList →
        Located (.lint rule file line) "static-analysis" (location (.lint rule file line)) :=
      fun located same => String.toList_inj.mp same ▸ located
    cases file with
    | none =>
      cases line with
      | none => exact written (.rule rule) (by simp [location])
      | some line => exact written (.ruleLine rule line) (by simp [location])
    | some file =>
      cases line with
      | none => exact written (.ruleFile rule file) (by simp [location])
      | some line => exact written (.ruleFileLine rule file line) (by simp [location])
  | dependency package title => exact .package package title

theorem issueBlock_shows (i : Issue) : Block i (issueBlock i) :=
  .shown _ _ _ (by cases i.severity <;> simp [severityTag]) (location_shows i.detail)

/-- The section of a report that shows some issues: how many there are, and each of them. -/
def sectionOf (blocks : List String) : String :=
  if blocks.isEmpty then ""
  else "\n  " ++ toString blocks.length ++ " security issue(s):\n" ++ String.join blocks

theorem issues_eq_section (v : Validation) :
    Report.issues v = sectionOf ((bySeverity v.issues).map issueBlock) := by
  have perm := bySeverity_perm v.issues
  have empty : ((bySeverity v.issues).map issueBlock).isEmpty = v.issues.isEmpty := by
    rw [List.isEmpty_map, perm.isEmpty_eq]
  rw [Report.issues, sectionOf, empty, List.length_map, perm.length_eq]

/-- A report shows each issue by one block, and tells how many blocks there are: first those of high
severity, then those of medium and then those of low severity, each group in the order of the issues.
Issues that are mixed in another way, but in the same order within each severity, make the same
report. -/
theorem console_issues (v : Validation) :
    ∃ blocks : Severity → List String,
      render v .console = header v ++ partialNote v ++ checks v ++
        sectionOf (blocks .high ++ (blocks .medium ++ blocks .low)) ++ recommendations v ++ "\n" ∧
      (∀ s, List.Forall₂ Block (ofSeverity s v.issues) (blocks s)) ∧
      (ofSeverity .high v.issues ++ (ofSeverity .medium v.issues ++ ofSeverity .low v.issues)).Perm
        v.issues ∧
      (blocks .high ++ (blocks .medium ++ blocks .low)).length = v.issues.length ∧
      ∀ issues, (∀ s, ofSeverity s issues = ofSeverity s v.issues) →
        render { v with issues } .console = render v .console := by
  have shown : ∀ issues, render { v with issues } .console =
      header v ++ partialNote v ++ checks v ++ sectionOf ((bySeverity issues).map issueBlock) ++
        recommendations v ++ "\n" := by
    intro issues
    rw [render, console, issues_eq_section]
    rfl
  have groups := bySeverity_eq_groups v.issues
  have perm := bySeverity_perm v.issues
  refine ⟨fun s => (ofSeverity s v.issues).map issueBlock, ?_, fun s => ?_, ?_, ?_, ?_⟩
  · rw [← List.map_append, ← List.map_append, ← groups]
    exact shown v.issues
  · exact List.forall₂_map_right_iff.mpr (List.forall₂_same.mpr fun i _ => issueBlock_shows i)
  · rw [← groups]
    exact perm
  · rw [← List.map_append, ← List.map_append, ← groups, List.length_map, perm.length_eq]
  · intro issues alike
    have sorted : bySeverity issues = bySeverity v.issues := by
      rw [bySeverity_eq_groups, bySeverity_eq_groups, alike, alike, alike]
    rw [shown, sorted]
    exact (shown v.issues).symm

def packageIssue (severity : Severity) (package : String) : Issue :=
  ⟨severity, package, .dependency package none⟩

def mixedIssues : List Issue := [packageIssue .low "a", packageIssue .high "b",
  packageIssue .medium "c", packageIssue .high "d", packageIssue .low "e"]

def mixedOtherwise : List Issue := [packageIssue .high "b", packageIssue .high "d",
  packageIssue .low "a", packageIssue .low "e", packageIssue .medium "c"]

theorem console_issues_mixed :
    (∀ s, ofSeverity s mixedOtherwise = ofSeverity s mixedIssues) ∧
      (bySeverity mixedIssues).map (·.message) = ["b", "d", "c", "a", "e"] ∧
      Block (packageIssue .high "b") "  [HIGH]   dependency b\n           at package b\n" ∧
      render { (default : Validation) with issues := mixedOtherwise } .console =
        render { (default : Validation) with issues := mixedIssues } .console := by
  have alike : ∀ s, ofSeverity s mixedOtherwise = ofSeverity s mixedIssues := by
    intro s
    cases s <;> decide
  obtain ⟨-, -, -, -, -, same⟩ :=
    console_issues { (default : Validation) with issues := mixedIssues }
  refine ⟨alike, ?_, ?_, same mixedOtherwise alike⟩
  · rw [bySeverity_eq_groups]
    decide
  · exact .shown "[HIGH]  " "dependency" "package b" (by simp [packageIssue]) (.package "b" none)

end FixGrader.Report
