import FixGrader.Proofs.Regex.Scan
import FixGrader.Proofs.Rules.Reordering
import FixGrader.Proofs.Stage.Charge
/-!
# The evidence of the pattern stage

For each vulnerable pattern that matches somewhere there is one issue, in the order of the rules. It
lists what was matched from left to right and names the first line in which the pattern can match.
The counts in the check are those of the listed matches and of the secure ones, so the order in which
a rule set has its patterns decides about the order of the issues and about nothing else.
-/
namespace FixGrader

/-- A part of a text, with what is before and after it. -/
structure Part where
  before : List Char
  taken : List Char
  after : List Char

namespace Part

def start (m : Part) : ℕ := m.before.length

def stop (m : Part) : ℕ := m.before.length + m.taken.length

def line (m : Part) : ℕ := 1 + m.before.count '\n'

def beginning (m : Part) : Part := ⟨m.before, [], m.taken ++ m.after⟩

def ofSpan (text : List Char) (s : Regex.Span) : Part :=
  ⟨text.take s.start, (text.drop s.start).take (s.stop - s.start), text.drop s.stop⟩

def Divides (m : Part) (text : List Char) : Prop := text = m.before ++ (m.taken ++ m.after)

variable {text : List Char} {s : Regex.Span} {m : Part}

theorem Divides.le (divides : m.Divides text) : m.start ≤ m.stop ∧ m.stop ≤ text.length := by
  have length := congrArg List.length divides
  simp only [List.length_append] at length
  simp only [start, stop]
  omega

theorem ofSpan_spec (forward : s.start ≤ s.stop) (within : s.stop ≤ text.length) :
    (ofSpan text s).Divides text ∧ (ofSpan text s).start = s.start ∧
      (ofSpan text s).stop = s.stop := by
  have before : (text.take s.start).length = s.start :=
    List.length_take_of_le (Nat.le_trans forward within)
  have taken : ((text.drop s.start).take (s.stop - s.start)).length = s.stop - s.start :=
    List.length_take_of_le (by rw [List.length_drop]; omega)
  refine ⟨?_, before, ?_⟩
  · have rest : text.drop s.stop = (text.drop s.start).drop (s.stop - s.start) := by
      rw [List.drop_drop, Nat.add_sub_cancel' forward]
    simp only [Divides, ofSpan]
    rw [rest, List.take_append_drop, List.take_append_drop]
  · simp only [stop, ofSpan, before, taken]
    omega

/-- Of two parts of a text, the one that begins earlier begins in no later line. -/
theorem line_le {m' : Part} (divides : m.Divides text) (divides' : m'.Divides text)
    (sooner : m.start ≤ m'.start) : m.line ≤ m'.line := by
  have within : m.before <+: m'.before :=
    List.prefix_of_prefix_length_le ⟨_, divides.symm⟩ ⟨_, divides'.symm⟩ sooner
  exact Nat.add_le_add_left (within.sublist.count_le '\n') 1

end Part

namespace Pattern
variable {p : Pattern} {text : List Char} {m : Part}

/-- A pattern can match this part of a text. -/
structure Fits (p : Pattern) (text : List Char) (m : Part) : Prop where
  divides : m.Divides text
  accepts : p.regex.program.Accepts text.toArray m.stop (p.regex.program.start, m.start)

/-- The matches of a pattern in a text: they are in order and do not overlap, and where the pattern
can match, a listed match begins or goes on, or one ends and the pattern can match nothing. -/
structure Scanned (p : Pattern) (text : List Char) (parts : List Part) : Prop where
  fits : ∀ m ∈ parts, p.Fits text m
  ordered : parts.Pairwise fun m m' => m.stop ≤ m'.start ∧ m.stop < m'.stop
  complete : ∀ m, p.Fits text m → ∃ m' ∈ parts, m'.start = m.start ∨
    (m'.start < m.start ∧ m.start < m'.stop) ∨ (m'.stop = m.start ∧ p.Fits text m.beginning)

def parts (p : Pattern) (text : List Char) : List Part :=
  (p.regex.findAll text.toArray).map (Part.ofSpan text)

theorem parts_scanned (p : Pattern) (text : List Char) : p.Scanned text (p.parts text) := by
  have scan := p.regex.program.spans_scanned text.toArray
  have placed : ∀ s ∈ p.regex.findAll text.toArray,
      (Part.ofSpan text s).Divides text ∧ (Part.ofSpan text s).start = s.start ∧
        (Part.ofSpan text s).stop = s.stop := by
    intro s listed
    obtain ⟨within, accepts⟩ := scan.matched s listed
    obtain ⟨forward, inside⟩ := accepts.le within
    exact Part.ofSpan_spec forward inside
  refine ⟨?_, ?_, ?_⟩
  · intro m among
    obtain ⟨s, listed, rfl⟩ := List.mem_map.mp among
    obtain ⟨divides, start, stop⟩ := placed s listed
    refine ⟨divides, ?_⟩
    rw [start, stop]
    exact (scan.matched s listed).2
  · refine List.pairwise_map.mpr (scan.ordered.imp_of_mem fun {s s'} listed listed' apart => ?_)
    obtain ⟨-, -, stop⟩ := placed s listed
    obtain ⟨-, start', stop'⟩ := placed s' listed'
    rw [start', stop', stop]
    exact apart
  · intro m fits
    have within : m.start ≤ text.toArray.size :=
      Nat.le_trans fits.divides.le.1 fits.divides.le.2
    rcases scan.complete m.start within (Nat.zero_le _) fun dead => dead _ fits.accepts with
      ⟨none, -⟩ | ⟨s, listed, told⟩
    · cases none
    · obtain ⟨-, start, stop⟩ := placed s listed
      refine ⟨Part.ofSpan text s, List.mem_map_of_mem listed, ?_⟩
      rw [start, stop]
      refine told.imp_right (Or.imp_right ?_)
      rintro ⟨ended, accepts⟩
      exact ⟨Option.some.inj ended, fits.divides, accepts⟩

/-- The first match that is listed begins in the first line in which the pattern can match. -/
theorem Scanned.first_line_le {first : Part} {rest : List Part}
    (scanned : p.Scanned text (first :: rest)) (fits : p.Fits text m) : first.line ≤ m.line := by
  have among := scanned.fits first List.mem_cons_self
  have start_le : ∀ m' ∈ first :: rest, first.start ≤ m'.start ∧ m'.start ≤ m'.stop := by
    intro m' listed
    refine ⟨?_, (scanned.fits m' listed).divides.le.1⟩
    rcases List.mem_cons.mp listed with rfl | later
    · exact Nat.le_refl _
    · exact Nat.le_trans among.divides.le.1 ((List.pairwise_cons.mp scanned.ordered).1 m' later).1
  refine Part.line_le among.divides fits.divides ?_
  obtain ⟨m', listed, told⟩ := scanned.complete m fits
  obtain ⟨low, forward⟩ := start_le m' listed
  rcases told with same | ⟨before, -⟩ | ⟨ended, -⟩
  · omega
  · omega
  · omega

end Pattern

namespace PatternStage
variable {p : Pattern} {text : List Char}

/-- What the issue of a pattern tells: its matches in their order, how many there are, and the line
of the first one, in no line before which the pattern can match. -/
structure Tells (text : List Char) (p : Pattern) (i : Issue) : Prop where
  severity_eq : i.severity = .high
  message_eq : i.message =
    p.description ++ " (" ++ toString (p.parts text).length ++ " occurrence(s))"
  listed : ∃ first rest, p.parts text = first :: rest ∧
    i.detail = .vulnerability p.id ((first :: rest).map fun m => String.ofList m.taken)
      (some first.line) ∧
    ∀ m, p.Fits text m → first.line ≤ m.line

theorem findMatches_eq (p : Pattern) (text : List Char) :
    findMatches p text.toArray =
      (p.parts text).map fun m => ⟨m.line, String.ofList m.taken⟩ := by
  rw [findMatches, Pattern.parts, List.map_map]
  refine List.map_congr_left fun s _ => ?_
  simp only [Regex.Span.line, Regex.Span.text, Part.line, Part.ofSpan, Function.comp_apply,
    Nat.add_comm 1]

theorem issue?_eq_none (none : p.parts text = []) : issue? text.toArray p = Option.none := by
  rw [issue?, findMatches_eq, none]
  rfl

theorem issue?_tells {first : Part} {rest : List Part} (found : p.parts text = first :: rest) :
    ∃ i, issue? text.toArray p = some i ∧ Tells text p i := by
  have scanned := p.parts_scanned text
  rw [found] at scanned
  refine ⟨_, by rw [issue?, findMatches_eq, found, List.map_cons], rfl, ?_, first, rest, found, ?_,
    fun m fits => scanned.first_line_le fits⟩
  · simp [found]
  · simp

/-- One issue for each pattern that matches somewhere, in their order. -/
theorem issues_tell (patterns : List Pattern) (text : List Char) :
    List.Forall₂ (Tells text) (patterns.filter fun p => !(p.parts text).isEmpty)
      (patterns.filterMap (issue? text.toArray)) := by
  induction patterns with
  | nil => exact .nil
  | cons p patterns ih =>
    cases found : p.parts text with
    | nil =>
      rw [List.filter_cons_of_neg (by simp [found]),
        List.filterMap_cons_none (issue?_eq_none found)]
      exact ih
    | cons first rest =>
      obtain ⟨i, issued, tells⟩ := issue?_tells found
      rw [List.filter_cons_of_pos (by simp [found]), List.filterMap_cons_some issued]
      exact .cons tells ih

/-- What the outcome for a text shows of the matches of some rules. -/
structure Evidence (rules : RuleSet) (text : List Char) (o : StageOutcome) : Prop where
  scanned : ∀ p ∈ rules.vulnerable ++ rules.secure, p.Scanned text (p.parts text)
  issues : List.Forall₂ (Tells text) (rules.vulnerable.filter fun p => !(p.parts text).isEmpty)
    o.issues
  counts : ∃ details, o.check.details = some (.object details) ∧
    details.lookup "vulnerable_count" = some (Json.ofNat (o.issues.map Issue.matchCount).sum) ∧
    details.lookup "secure_count" =
      some (Json.ofNat (rules.secure.map fun p => (p.parts text).length).sum)

theorem countMatches_eq (patterns : List Pattern) (text : List Char) :
    countMatches patterns text.toArray = (patterns.map fun p => (p.parts text).length).sum := by
  simp only [countMatches, Pattern.parts, List.length_map]

theorem outcomeWith_evidence (category : String) (found : Resolution) (text : List Char) :
    Evidence found.ruleSet text (outcomeWith category found text.toArray) := by
  obtain ⟨recommendations, same⟩ := outcomeWith_eq category found text.toArray
  rw [same]
  refine ⟨fun p _ => p.parts_scanned text, issues_tell found.ruleSet.vulnerable text,
    _, rfl, ?_, ?_⟩
  · rw [← sum_matchCount]
    rfl
  · rw [← countMatches_eq]
    rfl

/-- The vulnerable patterns that a category is searched for. -/
def vulnerable (r : Registry) (category : String) : List Pattern :=
  (r.resolve category).elim [] (·.ruleSet.vulnerable)

/-- Two outcomes that differ in their issues only: these are the same ones, each at the place that
its pattern has among some rules. -/
structure Rearranged (rules rules' : List Pattern) (o o' : StageOutcome) : Prop where
  elsewhere : o' = o.withIssues o'.issues
  issues : o.issues.Perm o'.issues
  accordingly : ∃ tell : Pattern → Option Issue,
    o.issues = rules.filterMap tell ∧ o'.issues = rules'.filterMap tell

theorem countMatches_perm {patterns patterns' : List Pattern} (perm : patterns.Perm patterns')
    (source : Array Char) : countMatches patterns source = countMatches patterns' source :=
  (perm.map _).sum_nat

theorem outcomeWith_issues (category : String) (found : Resolution) (source : Array Char) :
    (outcomeWith category found source).issues =
      found.ruleSet.vulnerable.filterMap (issue? source) := by
  obtain ⟨recommendations, same⟩ := outcomeWith_eq category found source
  rw [same]

theorem outcomeWith_reordered {found found' : Resolution} (reordered : found.Reordered found')
    (category : String) (source : Array Char) :
    Rearranged found.ruleSet.vulnerable found'.ruleSet.vulnerable
      (outcomeWith category found source) (outcomeWith category found' source) := by
  have issues := outcomeWith_issues category found source
  have issues' := outcomeWith_issues category found' source
  refine ⟨?_, ?_, issue? source, issues, issues'⟩
  · rw [issues']
    unfold outcomeWith checkOf
    rw [reordered.via_eq, reordered.ruleSet.category_eq, reordered.ruleSet.displayName_eq,
      reordered.ruleSet.recommendation_eq,
      ← countMatches_perm reordered.ruleSet.vulnerable,
      ← countMatches_perm reordered.ruleSet.secure]
    dsimp only
    split
    · split <;> rfl
    · rfl
  · rw [issues, issues']
    exact reordered.ruleSet.vulnerable.filterMap _

theorem outcome_reordered {r r' : Registry} (reordered : r.Reordered r')
    (category source : String) :
    Rearranged (vulnerable r category) (vulnerable r' category)
      (outcome r category source) (outcome r' category source) := by
  have resolved := reordered.resolve category
  unfold outcome vulnerable
  generalize r.resolve category = found? at resolved ⊢
  generalize r'.resolve category = found?' at resolved ⊢
  cases resolved with
  | none => exact ⟨rfl, .refl _, fun _ => none, rfl, rfl⟩
  | some same => exact outcomeWith_reordered same category _

/-- The issues of the stage tell of all matches of the vulnerable patterns, and the counts in its
check of all matches. Where the patterns of the rule sets stand in another order, the issues do so
as well; the points, the counts, the check and what is recommended stay. -/
theorem run_evidence (r : Registry) (category source : String) (w : World) :
    (r.resolve category = none → ((run r category source).run w).1.issues = []) ∧
    (∀ found, r.resolve category = some found →
      Evidence found.ruleSet source.toList ((run r category source).run w).1) ∧
    ∀ r' w', r.Reordered r' → Rearranged (vulnerable r category) (vulnerable r' category)
      ((run r category source).run w).1 ((run r' category source).run w').1 := by
  rw [(run_eq r category source w).1]
  refine ⟨?_, ?_, ?_⟩
  · intro unresolved
    rw [outcome, unresolved]
    rfl
  · intro found resolved
    rw [outcome, resolved]
    exact outcomeWith_evidence category found source.toList
  · intro r' w' reordered
    rw [(run_eq r' category source w').1]
    exact outcome_reordered reordered category source

def plainRules (vulnerable secure : List String) : RuleSet :=
  ⟨"plain", "Plain", none, vulnerable.map fun s => ⟨s, s, .known s⟩,
    secure.map fun s => ⟨s, s, .known s⟩⟩

/-- A pattern that is found from the second line on, one that can match nothing, and one that is not
found; then the first two the other way round. -/
theorem run_evidence_plain :
    let rules := plainRules ["b", "x*", "z"] ["c"]
    let rules' := plainRules ["x*", "b", "z"] ["c"]
    let o := ((run ⟨[rules], .empty, "plain"⟩ "plain" "a\nxb\ncb").run default).1
    let o' := ((run ⟨[rules'], .empty, "plain"⟩ "plain" "a\nxb\ncb").run default).1
    Evidence rules "a\nxb\ncb".toList o ∧
      o.issues.map (fun i => (i.line, i.matchCount)) = [(some 2, 2), (some 1, 7)] ∧
      o' = o.withIssues o'.issues ∧ o.issues.Perm o'.issues := by
  intro rules rules' o o'
  obtain ⟨-, evidence, rearranged⟩ :=
    run_evidence ⟨[rules], .empty, "plain"⟩ "plain" "a\nxb\ncb" default
  have same : Registry.Reordered ⟨[rules], .empty, "plain"⟩ ⟨[rules'], .empty, "plain"⟩ :=
    ⟨.cons ⟨rfl, rfl, rfl, .swap _ _ _, .refl _⟩ .nil, rfl, rfl⟩
  obtain ⟨elsewhere, issues, -⟩ := rearranged _ default same
  exact ⟨evidence ⟨rules, .category⟩ rfl, by decide +kernel, elsewhere, issues⟩

end PatternStage

end FixGrader
