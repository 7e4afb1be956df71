import FixGrader.Rules.Catalogue
import FixGrader.Text.Case
/-!
# The registry of rule sets

A registry holds one rule set per category, further names for categories, and the category that is
used where nothing fits. A challenge names its category freely: the name may be a category, a
further name, or one of these with something behind a dash.
-/
namespace FixGrader

structure Registry where
  ruleSets : List RuleSet
  aliases : NameTable String
  defaultCategory : String
  deriving Repr, Inhabited

/-- How the name of a category led to a rule set. -/
inductive Via where
  /-- The name is a category. -/
  | category
  /-- The name is a further name of a category. -/
  | otherName
  /-- The name is a known one with something behind a dash. -/
  | stem
  /-- No known name fits. -/
  | fallback
  deriving DecidableEq, Repr, Inhabited

def Via.text : Via → String
  | category => "exact"
  | otherName => "alias"
  | stem => "prefix"
  | fallback => "fallback"

structure Resolution where
  ruleSet : RuleSet
  via : Via
  deriving Repr, Inhabited

/-- What is told about a rule set in a list. -/
structure RuleSet.Summary where
  category : String
  displayName : String
  vulnerable : List String
  secure : List String
  aliases : List String
  deriving DecidableEq, Repr, Inhabited

namespace Registry

def builtIn : Registry where
  ruleSets := Catalogue.ruleSets
  aliases := Catalogue.aliases
  defaultCategory := Catalogue.defaultCategory

/-- Puts a rule set in the place of the one of the same category, or at the end. -/
def putRuleSet (s : RuleSet) : List RuleSet → List RuleSet
  | [] => [s]
  | t :: rest => if t.category = s.category then s :: rest else t :: putRuleSet s rest

/-- The rule set of a category. -/
def lookup (r : Registry) (category : String) : Option RuleSet :=
  r.ruleSets.find? (·.category = category)

def addCustom (r : Registry) (custom : CustomRuleSet) : Except RuleError Registry := do
  return { r with ruleSets := putRuleSet (← RuleSet.ofCustom custom) r.ruleSets }

/-- Adds a further name for a category that has a rule set. -/
def addAlias (r : Registry) (entry : String × String) : Except RuleError Registry :=
  if (r.lookup entry.2).isSome then .ok { r with aliases := r.aliases.insert entry.1 entry.2 }
  else .error (.dangling entry.1 entry.2)

/-- The built-in registry with what the settings add to it. -/
def withSettings (settings : RuleSettings) : Except RuleError Registry := do
  let r ← settings.custom.foldlM addCustom builtIn
  settings.aliases.entries.foldlM addAlias r

/-- The form in which the names of categories are compared. -/
def normalized (category : String) : String := Text.lower (Text.trim category)

/-- Whether a name is another one with a dash and anything behind it. -/
def hasStem (name stem : String) : Bool := (stem.toList ++ ['-']).isPrefixOf name.toList

/-- The known names, each with the category that it stands for. -/
def knownNames (r : Registry) : List (String × String) :=
  r.ruleSets.map (fun s => (s.category, s.category)) ++ r.aliases.entries

/-- The last of the longest names of a list. -/
def longest (names : List (String × String)) : Option (String × String) :=
  names.foldl (fun best n =>
    match best with
    | none => some n
    | some b => if b.1.utf8ByteSize ≤ n.1.utf8ByteSize then some n else some b) none

/-- The rule set of the longest known name that a name extends. -/
def lookupStem (r : Registry) (name : String) : Option RuleSet :=
  (longest (r.knownNames.filter fun known => hasStem name known.1)).bind fun known =>
    r.lookup known.2

/-- The rule set for the name of a category: the one of this category, of a further name, of a name
that it extends, or else of the default category. -/
def resolve (r : Registry) (category : String) : Option Resolution :=
  let name := normalized category
  match r.lookup name with
  | some s => some ⟨s, .category⟩
  | none =>
    match (r.aliases.get? name).bind r.lookup with
    | some s => some ⟨s, .otherName⟩
    | none =>
      match r.lookupStem name with
      | some s => some ⟨s, .stem⟩
      | none =>
        match (r.lookup r.defaultCategory).or r.ruleSets.head? with
        | some s => some ⟨s, .fallback⟩
        | none => none

/-- Whether no known name fits. -/
def isUnresolved (r : Registry) (category : String) : Bool :=
  match r.resolve category with
  | none => true
  | some resolution => resolution.via = .fallback

/-- The categories that only the default rule set fits. -/
def unresolved (r : Registry) (categories : List String) : List String :=
  categories.filter r.isUnresolved

/-- What there is in the registry. -/
def list (r : Registry) : List RuleSet.Summary :=
  r.ruleSets.map fun s => {
    category := s.category
    displayName := s.displayName
    vulnerable := s.vulnerable.map (·.id)
    secure := s.secure.map (·.id)
    aliases := (r.aliases.entries.filter (·.2 = s.category)).map (·.1) }

end Registry

open Json in
def RuleSet.Summary.toJson (s : RuleSet.Summary) : Json :=
  .object [("category", .string s.category), ("display_name", .string s.displayName),
    ("vulnerable_patterns", ofStrings s.vulnerable), ("secure_patterns", ofStrings s.secure),
    ("aliases", ofStrings s.aliases)]

end FixGrader
