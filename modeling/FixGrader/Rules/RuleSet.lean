import FixGrader.Regex.Search
import FixGrader.Settings
/-!
# Rule sets

The idioms of one category of vulnerabilities, as compiled patterns: those that show the
vulnerability and those that avoid it.
-/
namespace FixGrader

structure Pattern where
  id : String
  description : String
  regex : Regex
  deriving Repr, Inhabited

structure RuleSet where
  category : String
  displayName : String
  /-- What to do about the vulnerability. -/
  recommendation : Option String
  vulnerable : List Pattern
  secure : List Pattern
  deriving Repr, Inhabited

/-- Why rules are refused. -/
inductive RuleError where
  | pattern (category source : String) (cause : Regex.PatternError)
  /-- A further name stands for a category that has no rule set. -/
  | dangling (name target : String)
  deriving DecidableEq, Repr

namespace RuleError

/-- The category, or the further name, that the rule belongs to. -/
def category : RuleError → String
  | pattern category _ _ => category
  | dangling name _ => name

def message : RuleError → String
  | pattern _ source cause => "pattern '" ++ source ++ "' does not compile: " ++ cause.message
  | dangling _ target => "alias points at unknown rule set '" ++ target ++ "'"

end RuleError

/-- A pattern of a table: one that does not compile matches nothing. -/
def Regex.known (source : String) : Regex :=
  match Regex.compile source with
  | .ok regex => regex
  | .error _ => ⟨source, ⟨#[], 0⟩⟩

/-- A pattern that is its own name and description. -/
def Pattern.ofSource (category source : String) : Except RuleError Pattern :=
  match Regex.compile source with
  | .ok regex => .ok ⟨source, source, regex⟩
  | .error cause => .error (.pattern category source cause)

/-- A rule set of the settings. -/
def RuleSet.ofCustom (custom : CustomRuleSet) : Except RuleError RuleSet := do
  let vulnerable ← custom.vulnerable.mapM (Pattern.ofSource custom.category)
  let secure ← custom.secure.mapM (Pattern.ofSource custom.category)
  return {
    category := custom.category
    displayName := custom.displayName.getD custom.category
    recommendation := custom.recommendation
    vulnerable, secure }

end FixGrader
