import FixGrader.Rules.Registry
import FixGrader.Stage.Outcome
import FixGrader.World
/-!
# The pattern stage

The source is searched for the idioms of the category: each match of a vulnerable one costs points,
and full marks need a secure one as well.
-/
namespace FixGrader.PatternStage

-- the zero of the core library, whatever else is in scope
attribute [local instance (2000)] Zero.ofOfNat0

/-- A match: the line it starts in, and its text. -/
structure Match where
  line : Nat
  text : String
  deriving DecidableEq, Repr, Inhabited

/-- The matches of a pattern, in order. -/
def findMatches (p : Pattern) (source : Array Char) : List Match :=
  (p.regex.findAll source).map fun span => ⟨span.line source, span.text source⟩

/-- The issue for a vulnerable pattern that matches somewhere. -/
def issue? (source : Array Char) (p : Pattern) : Option Issue :=
  match findMatches p source with
  | [] => none
  | first :: rest =>
    let found := first :: rest
    some ⟨.high, p.description ++ " (" ++ toString found.length ++ " occurrence(s))",
      .vulnerability p.id (found.map (·.text)) (some first.line)⟩

/-- How often some patterns match. -/
def countMatches (patterns : List Pattern) (source : Array Char) : Nat :=
  (patterns.map fun p => (p.regex.findAll source).length).sum

def summary (vulnerable secure : Nat) : String :=
  if 0 < vulnerable then toString vulnerable ++ " vulnerable pattern match(es) found"
  else if 0 < secure then
    "No vulnerable patterns found; " ++ toString secure ++ " secure idiom(s) detected"
  else "No vulnerable patterns found, but no recognised secure idiom either"

def checkOf (category : String) (found : Resolution) (vulnerable secure : Nat) : Check :=
  let message := summary vulnerable secure
  let name := found.ruleSet.displayName
  (if vulnerable = 0 then Check.pass name message else Check.fail name message).withDetails [
    ("category", .string category), ("rule_set", .string found.ruleSet.category),
    ("resolved_via", .string found.via.text), ("vulnerable_count", Json.ofNat vulnerable),
    ("secure_count", Json.ofNat secure)]

/-- The outcome for a source under the rules found for its category. -/
def outcomeWith (category : String) (found : Resolution) (source : Array Char) : StageOutcome :=
  let vulnerable := countMatches found.ruleSet.vulnerable source
  let secure := countMatches found.ruleSet.secure source
  let outcome := (StageOutcome.of .pattern (Scoring.patternPoints vulnerable secure)
    (checkOf category found vulnerable secure)).withIssues
      (found.ruleSet.vulnerable.filterMap (issue? source))
  match found.ruleSet.recommendation with
  | some recommendation =>
    if 0 < vulnerable ∨ secure = 0 then outcome.recommend recommendation else outcome
  | none => outcome

/-- The outcome where no rules at all can be found. -/
def outcomeWithout (category : String) : StageOutcome :=
  .of .pattern .zero
    (.fail "Pattern Validation" ("No pattern rules for category '" ++ category ++ "'"))

def outcome (r : Registry) (category source : String) : StageOutcome :=
  match r.resolve category with
  | none => outcomeWithout category
  | some found => outcomeWith category found source.toList.toArray

/-- The stage, with the events that it notes. -/
def run (r : Registry) (category source : String) : Run StageOutcome := do
  match r.resolve category with
  | none =>
    Run.warn Log.Target.pattern "no rule set available" [("category", .quoted category)]
    return outcomeWithout category
  | some found =>
    if found.via = .fallback then
      Run.warn Log.Target.pattern "unknown category, using default rule set"
        [("category", .quoted category), ("rule_set", .shown found.ruleSet.category)]
    let source := source.toList.toArray
    let outcome := outcomeWith category found source
    Run.debug Log.Target.pattern "pattern stage"
      [("rule_set", .shown found.ruleSet.category),
        ("vulnerable", .ofNat (countMatches found.ruleSet.vulnerable source)),
        ("secure", .ofNat (countMatches found.ruleSet.secure source)),
        ("score", .ofDouble outcome.points)]
    return outcome

end FixGrader.PatternStage
