import FixGrader.Proofs.Grading.Exact
import FixGrader.Proofs.Regex.Exploration
import FixGrader.Proofs.Regex.Idiom
import FixGrader.Proofs.Stage.Course
/-!
# Assignments of markup

An idiom of the built-in rules finds markup that is assigned to a property. It is found wherever
there is such an assignment, whatever stands around it, and nowhere else: the value has to begin with
a character of its own, and a comparison does not count as an assignment of its second sign.
-/
namespace FixGrader

/-- A text in which something is assigned to a property: the name of the property, an equals sign
that may have a plus sign before it, and the first character of the value. Before the signs and
behind them there may be blanks. -/
structure Assignment (property : String) (text : List Char) where
  before : List Char
  gap : List Char
  plus : List Char
  blanks : List Char
  value : Char
  after : List Char
  split : text =
    before ++ (property.toList ++ (gap ++ (plus ++ '=' :: (blanks ++ value :: after))))
  blank : (gap ++ blanks).all Text.isBlank = true
  signs : plus = [] ∨ plus = ['+']
  begins : value ≠ '=' ∧ Text.isBlank value = false

/-- Wherever a property is named in a text, a comparison follows: two equals signs or more, behind
any blanks. -/
def Compared (property : String) (text : List Char) : Prop :=
  ∀ before after, text = before ++ (property.toList ++ after) →
    ∃ blanks rest, blanks.all Text.isBlank = true ∧ after = blanks ++ '=' :: '=' :: rest

section
variable {property : String} {text : List Char}

theorem compared_iff : Compared property text ↔
    ∀ rest ∈ text.tails, property.toList <+: rest →
      ['=', '='] <+: (rest.drop property.toList.length).dropWhile Text.isBlank := by
  constructor
  · rintro compared _ listed ⟨after, rfl⟩
    obtain ⟨before, split⟩ := (List.mem_tails _ _).mp listed
    obtain ⟨blanks, rest, blank, rfl⟩ := compared before after split.symm
    refine ⟨rest, ?_⟩
    rw [List.drop_left, List.dropWhile_append_of_pos (List.all_eq_true.mp blank)]
    rfl
  · rintro follows before after rfl
    have listed : property.toList ++ after ∈ (before ++ (property.toList ++ after)).tails :=
      (List.mem_tails _ _).mpr ⟨before, rfl⟩
    obtain ⟨rest, equals⟩ := follows _ listed ⟨after, rfl⟩
    rw [List.drop_left] at equals
    refine ⟨after.takeWhile Text.isBlank, rest, List.all_takeWhile, ?_⟩
    calc after = after.takeWhile Text.isBlank ++ after.dropWhile Text.isBlank :=
          List.takeWhile_append_dropWhile.symm
      _ = after.takeWhile Text.isBlank ++ '=' :: '=' :: rest := by rw [← equals]; rfl

instance : Decidable (Compared property text) := decidable_of_iff _ compared_iff.symm

end

namespace Assignment
variable {property : String} {text : List Char}

/-- What stands around a text makes no difference to an assignment in it. -/
def embed (a : Assignment property text) (before after : List Char) :
    Assignment property (before ++ text ++ after) where
  before := before ++ a.before
  gap := a.gap
  plus := a.plus
  blanks := a.blanks
  value := a.value
  after := a.after ++ after
  split := by
    conv_lhs => rw [a.split]
    simp only [List.append_assoc, List.cons_append]
  blank := a.blank
  signs := a.signs
  begins := a.begins

/-- Behind blanks, a text goes on by its first character that is none. -/
theorem behind_blanks {blanks blanks' rest rest' : List Char} {c c' : Char}
    (blank : blanks.all Text.isBlank = true) (blank' : blanks'.all Text.isBlank = true)
    (other : Text.isBlank c = false) (other' : Text.isBlank c' = false)
    (same : blanks ++ c :: rest = blanks' ++ c' :: rest') : c :: rest = c' :: rest' := by
  have left : (blanks ++ c :: rest).dropWhile Text.isBlank = c :: rest := by
    rw [List.dropWhile_append_of_pos (List.all_eq_true.mp blank)]
    exact List.dropWhile_cons_of_neg (by simp [other])
  have right : (blanks' ++ c' :: rest').dropWhile Text.isBlank = c' :: rest' := by
    rw [List.dropWhile_append_of_pos (List.all_eq_true.mp blank')]
    exact List.dropWhile_cons_of_neg (by simp [other'])
  rw [← left, same, right]

/-- Nothing is assigned where the property is only compared. -/
theorem false_of_compared (a : Assignment property text) (compared : Compared property text) :
    False := by
  have equals : Text.isBlank '=' = false := by decide
  obtain ⟨blanks, rest, blank, follows⟩ := compared a.before _ a.split
  have gap : a.gap.all Text.isBlank = true ∧ a.blanks.all Text.isBlank = true := by
    have both := a.blank
    rwa [List.all_append, Bool.and_eq_true] at both
  rcases a.signs with unsigned | plus
  · rw [unsigned, List.nil_append] at follows
    have behind := behind_blanks gap.1 blank equals equals follows
    have value : a.blanks ++ a.value :: a.after = '=' :: rest := List.tail_eq_of_cons_eq behind
    have none_before : ([] : List Char).all Text.isBlank = true := rfl
    have first := behind_blanks gap.2 none_before a.begins.2 equals value
    exact a.begins.1 (List.head_eq_of_cons_eq first)
  · rw [plus, List.singleton_append] at follows
    have behind := behind_blanks gap.1 blank (by decide) equals follows
    exact absurd (List.head_eq_of_cons_eq behind) (by decide)

end Assignment

namespace Catalogue
open Regex

def assignmentTo (property : String) : Node := .ofList (
  property.toList.map (fun k => Node.char (.single k)) ++ [
    .loop (.char .blank) 0 none true, .loop (.char (.single '+')) 0 (some 1) true,
    .char (.single '='), .loop (.char .blank) 0 none true,
    .char (.compl (.union (.listed ['=']) .blank))])

/-- A pattern that is read so is found where there is an assignment. -/
theorem assignment_found_iff {source property : String}
    (reads : (Node.ofText source).toOption = some (assignmentTo property)) (text : List Char) :
    (Regex.known source).findAll text.toArray ≠ [] ↔ Nonempty (Assignment property text) := by
  have blank {cs : List Char} : (∀ c ∈ cs, CharSet.blank.contains c = true) ↔
      cs.all Text.isBlank = true := List.all_eq_true.symm
  have sign {plus : List Char} :
      (plus = [] ∨ ∃ c, plus = [c] ∧ c = '+') ↔ plus = [] ∨ plus = ['+'] := by
    rw [exists_eq_right]
  have value {c : Char} : (CharSet.compl (.union (.listed ['=']) .blank)).contains c = true ↔
      c ≠ '=' ∧ Text.isBlank c = false := by
    rw [CharSet.contains_compl, CharSet.contains, Bool.or_eq_true, CharSet.contains_listed,
      List.mem_singleton, not_or, CharSet.contains, Bool.not_eq_true]
  rw [findAll_ne_nil_iff reads]
  simp only [assignmentTo, Node.takes_word, Node.takes_run, Node.takes_optional, Node.takes_one,
    CharSet.contains_single, blank, sign, value]
  constructor
  · rintro ⟨before, _, after, rfl, _, rfl, gap, _, rfl, gapBlank, plus, _, rfl, signs, _, _, rfl,
      rfl, blanks, _, rfl, blanksBlank, value, _, rfl, begins, rfl⟩
    refine ⟨⟨before, gap, plus, blanks, value, after, ?_, ?_, signs, begins⟩⟩
    · simp only [List.append_assoc, List.cons_append, List.nil_append]
    · rw [List.all_append, gapBlank, blanksBlank, Bool.and_true]
  · rintro ⟨⟨before, gap, plus, blanks, value, after, rfl, blank, signs, begins⟩⟩
    rw [List.all_append, Bool.and_eq_true] at blank
    refine ⟨before, property.toList ++ (gap ++ (plus ++ '=' :: (blanks ++ [value]))), after, ?_, _,
      rfl, gap, _, rfl, blank.1, plus, _, rfl, signs, '=', _, rfl, rfl, blanks, _, rfl, blank.2,
      value, _, rfl, begins, rfl⟩
    simp only [List.append_assoc, List.cons_append, List.nil_append]

def innerHtml : Idiom :=
  ⟨"inner-html-assignment", "\\.innerHTML\\s*\\+?=\\s*[^=\\s]", "Markup assigned through innerHTML"⟩

theorem Idiom.regex_pattern (i : Idiom) : i.pattern.regex = Regex.known i.regex := rfl

theorem read_innerHtml :
    (Node.ofText innerHtml.regex).toOption = some (assignmentTo ".innerHTML") := by
  decide +kernel

/-- No other pattern has its name. -/
theorem vulnerable_innerHtml {p : Pattern} :
    p ∈ xss.ruleSet.vulnerable ∧ p.id = "inner-html-assignment" ↔ p = innerHtml.pattern := by
  constructor
  · rintro ⟨listed, named⟩
    obtain ⟨idiom, known, rfl⟩ := List.mem_map.mp listed
    rw [xss] at known
    simp only [List.mem_cons, List.not_mem_nil, or_false] at known
    rcases known with rfl | rfl | rfl | rfl | rfl | rfl | rfl
    · rfl
    all_goals exact absurd named (by decide)
  · rintro rfl
    exact ⟨List.mem_cons_self, rfl⟩

end Catalogue

def Issue.pattern? (i : Issue) : Option String :=
  match i.detail with
  | .vulnerability pattern _ _ => some pattern
  | _ => none

namespace PatternStage
variable {source : Array Char} {p : Pattern} {patterns : List Pattern}

theorem findMatches_eq_nil_iff : findMatches p source = [] ↔ p.regex.findAll source = [] :=
  List.map_eq_nil_iff

/-- There is an issue of a pattern that is found, and it names the pattern. -/
theorem issue?_named (found : p.regex.findAll source ≠ []) :
    ∃ i, issue? source p = some i ∧ i.pattern? = some p.id := by
  have some_match := mt findMatches_eq_nil_iff.mp found
  obtain ⟨first, rest, listed⟩ := List.exists_cons_of_ne_nil some_match
  rw [issue?, listed]
  exact ⟨_, rfl, rfl⟩

/-- An issue names a pattern exactly if one of that name is found. -/
theorem exists_issue_iff {id : String} :
    (∃ i ∈ patterns.filterMap (issue? source), i.pattern? = some id) ↔
      ∃ p ∈ patterns, p.id = id ∧ p.regex.findAll source ≠ [] := by
  constructor
  · rintro ⟨i, listed, named⟩
    obtain ⟨p, known, issued⟩ := List.mem_filterMap.mp listed
    have found : p.regex.findAll source ≠ [] := by
      intro nothing
      rw [issue?, findMatches_eq_nil_iff.mpr nothing] at issued
      cases issued
    obtain ⟨i', issued', named'⟩ := issue?_named found
    rw [issued] at issued'
    cases issued'
    rw [named] at named'
    exact ⟨p, known, (Option.some.inj named').symm, found⟩
  · rintro ⟨p, known, rfl, found⟩
    obtain ⟨i, issued, named⟩ := issue?_named found
    exact ⟨i, List.mem_filterMap.mpr ⟨p, known, issued⟩, named⟩

theorem countMatches_pos (known : p ∈ patterns) (found : p.regex.findAll source ≠ []) :
    0 < countMatches patterns source := by
  have some_match : 0 < (p.regex.findAll source).length := List.length_pos_iff.mpr found
  have counted : (p.regex.findAll source).length ≤ countMatches patterns source :=
    List.le_sum_of_mem (List.mem_map_of_mem known)
  omega

/-- A vulnerable match leaves at most 40 points. -/
theorem patternPoints_le {vulnerable : ℕ} (matched : 0 < vulnerable) (secure : ℕ) :
    ∃ points : ℚ, (Scoring.patternPoints vulnerable secure).value? = some points ∧ points ≤ 40 := by
  refine ⟨_, Scoring.patternPoints_value vulnerable secure, ?_⟩
  have one : (1 : ℚ) ≤ vulnerable := Nat.one_le_cast.mpr matched
  rw [if_pos matched]
  apply max_le
  · norm_num
  · linarith

section Rules
variable {r : Registry} {category : String} {found : Resolution}
  (resolved : r.resolve category = some found) (rules : found.ruleSet = Catalogue.xss.ruleSet)

include resolved rules

theorem run_xss (source : String) (w : World) :
    ((run r category source).run w).1.issues =
        Catalogue.xss.ruleSet.vulnerable.filterMap (issue? source.toList.toArray) ∧
      ((run r category source).run w).1.points = Scoring.patternPoints
        (countMatches Catalogue.xss.ruleSet.vulnerable source.toList.toArray)
        (countMatches Catalogue.xss.ruleSet.secure source.toList.toArray) := by
  obtain ⟨recommendations, same⟩ := outcomeWith_eq category found source.toList.toArray
  rw [(run_eq r category source w).1, outcome, resolved, ← rules]
  dsimp only
  rw [same]
  exact ⟨rfl, rfl⟩

theorem innerHtml_issue_iff (source : String) (w : World) :
    (∃ i ∈ ((run r category source).run w).1.issues, i.pattern? = some "inner-html-assignment") ↔
      Nonempty (Assignment ".innerHTML" source.toList) := by
  rw [(run_xss resolved rules source w).1, exists_issue_iff,
    ← Catalogue.assignment_found_iff Catalogue.read_innerHtml]
  constructor
  · rintro ⟨p, listed, named, found⟩
    rwa [Catalogue.vulnerable_innerHtml.mp ⟨listed, named⟩, Catalogue.Idiom.regex_pattern] at found
  · intro found
    obtain ⟨listed, named⟩ := Catalogue.vulnerable_innerHtml.mpr rfl
    refine ⟨_, listed, named, ?_⟩
    rwa [Catalogue.Idiom.regex_pattern]

end Rules

/-- Under the rules for cross-site scripting, an issue tells of markup that is assigned to
`innerHTML` exactly if the source has such an assignment. Whatever it is embedded in, it is told and
leaves at most 40 points; a comparison is never told. -/
theorem innerHtml_reported_iff {r : Registry} {category : String} {found : Resolution}
    (resolved : r.resolve category = some found) (rules : found.ruleSet = Catalogue.xss.ruleSet) :
    (∀ source w, (∃ i ∈ ((run r category source).run w).1.issues,
        i.pattern? = some "inner-html-assignment") ↔
          Nonempty (Assignment ".innerHTML" source.toList)) ∧
      (∀ before source after w, Nonempty (Assignment ".innerHTML" source.toList) →
        (∃ i ∈ ((run r category (before ++ source ++ after)).run w).1.issues,
          i.pattern? = some "inner-html-assignment") ∧
        ∃ points : ℚ,
          ((run r category (before ++ source ++ after)).run w).1.points.value? = some points ∧
            points ≤ 40) ∧
      ∀ source w, Compared ".innerHTML" source.toList →
        ¬ ∃ i ∈ ((run r category source).run w).1.issues,
          i.pattern? = some "inner-html-assignment" := by
  refine ⟨innerHtml_issue_iff resolved rules, ?_, ?_⟩
  · rintro before source after w ⟨assigned⟩
    have embedded : Nonempty (Assignment ".innerHTML" (before ++ source ++ after).toList) := by
      rw [String.toList_append, String.toList_append]
      exact ⟨assigned.embed before.toList after.toList⟩
    refine ⟨(innerHtml_issue_iff resolved rules _ w).mpr embedded, ?_⟩
    obtain ⟨listed, -⟩ := Catalogue.vulnerable_innerHtml.mpr rfl
    have searched : Catalogue.innerHtml.pattern.regex.findAll
        (before ++ source ++ after).toList.toArray ≠ [] := by
      rw [Catalogue.Idiom.regex_pattern]
      exact (Catalogue.assignment_found_iff Catalogue.read_innerHtml _).mpr embedded
    rw [(run_xss resolved rules _ w).2]
    exact patternPoints_le (countMatches_pos listed searched) _
  · intro source w compared told
    obtain ⟨assigned⟩ := (innerHtml_issue_iff resolved rules source w).mp told
    exact assigned.false_of_compared compared

/-- Behind a comparison, across a line end and with a sign. -/
theorem innerHtml_reported_behind_comparison :
    (∃ points : ℚ, ((run Registry.builtIn "xss-stored"
        ("if (a.innerHTML == b) " ++ "c.innerHTML \n+= d" ++ ";")).run default).1.points.value? =
          some points ∧ points ≤ 40) ∧
      ¬ ∃ i ∈ ((run Registry.builtIn "xss-stored" "if (a.innerHTML === b) return").run
        default).1.issues, i.pattern? = some "inner-html-assignment" := by
  have resolved : Registry.builtIn.resolve "xss-stored" = some ⟨Catalogue.xss.ruleSet, .stem⟩ := by
    rfl
  obtain ⟨-, embedded, compared⟩ := innerHtml_reported_iff resolved rfl
  have assigned : Nonempty (Assignment ".innerHTML" "c.innerHTML \n+= d".toList) :=
    ⟨⟨['c'], [' ', '\n'], ['+'], [' '], 'd', [], by decide, by decide, .inr rfl, by decide⟩⟩
  exact ⟨(embedded _ _ _ _ assigned).2, compared _ _ (by decide)⟩

end PatternStage

end FixGrader
