import FixGrader.Json.Decoder
import FixGrader.NameTable
/-!
# Settings

Which external tools are run, by which programs and for how long, and which rule sets and category
names are added to the built-in ones. Every part may be left out.
-/
namespace FixGrader

/-- The external tools. -/
structure ToolSettings where
  /-- Whether the linter is run. -/
  lint : Bool := true
  /-- Whether the dependency audit is run. -/
  audit : Bool := true
  probeSeconds : Nat := 3
  lintSeconds : Nat := 120
  auditSeconds : Nat := 120
  /-- The program that launches the linter. -/
  npx : String := "npx"
  /-- The program that audits dependencies. -/
  npm : String := "npm"
  deriving DecidableEq, Repr, Inhabited

/-- A rule set whose patterns are given by their texts alone. -/
structure CustomRuleSet where
  category : String
  displayName : Option String := none
  recommendation : Option String := none
  vulnerable : List String := []
  secure : List String := []
  deriving DecidableEq, Repr, Inhabited

/-- What is laid over the built-in rules. -/
structure RuleSettings where
  /-- The rule set that each further category name stands for. -/
  aliases : NameTable String := .empty
  /-- Rule sets that are added, or that replace the one of the same category. -/
  custom : List CustomRuleSet := []
  deriving Repr, Inhabited

structure Settings where
  tools : ToolSettings := {}
  rules : RuleSettings := {}
  deriving Repr, Inhabited

open Json

namespace ToolSettings

def standard : ToolSettings := {}

def decoder (more : Bool) : Decoder ToolSettings :=
  .recordWith more ["static_analysis", "dependency_audit", "probe_timeout_secs",
      "lint_timeout_secs", "audit_timeout_secs", "npx", "npm"] fun
    | [lint, audit, probeSeconds, lintSeconds, auditSeconds, npx, npm] => do
      return {
        lint := ← lint.orElse standard.lint .bool
        audit := ← audit.orElse standard.audit .bool
        probeSeconds := ← probeSeconds.orElse standard.probeSeconds (.natural 64)
        lintSeconds := ← lintSeconds.orElse standard.lintSeconds (.natural 64)
        auditSeconds := ← auditSeconds.orElse standard.auditSeconds (.natural 64)
        npx := ← npx.orElse standard.npx .string
        npm := ← npm.orElse standard.npm .string }
    | _ => none

def toJson (t : ToolSettings) : Json :=
  .object [("static_analysis", .bool t.lint), ("dependency_audit", .bool t.audit),
    ("probe_timeout_secs", ofNat t.probeSeconds), ("lint_timeout_secs", ofNat t.lintSeconds),
    ("audit_timeout_secs", ofNat t.auditSeconds), ("npx", .string t.npx), ("npm", .string t.npm)]

end ToolSettings

namespace CustomRuleSet

def decoder (more : Bool) : Decoder CustomRuleSet :=
  .recordWith more ["category", "display_name", "recommendation", "vulnerable", "secure"] fun
    | [category, displayName, recommendation, vulnerable, secure] => do
      return {
        category := ← category.required .string
        displayName := ← displayName.orElse none (Decoder.nullable .string)
        recommendation := ← recommendation.orElse none (Decoder.nullable .string)
        vulnerable := ← vulnerable.orElse [] (.list .string)
        secure := ← secure.orElse [] (.list .string) }
    | _ => none

def toJson (c : CustomRuleSet) : Json :=
  .object [("category", .string c.category), ("display_name", ofOption .string c.displayName),
    ("recommendation", ofOption .string c.recommendation),
    ("vulnerable", ofStrings c.vulnerable), ("secure", ofStrings c.secure)]

end CustomRuleSet

namespace RuleSettings

def aliasDecoder : Decoder (NameTable String) := (Decoder.members .string).map NameTable.ofList

def decoder (more : Bool) : Decoder RuleSettings :=
  .recordWith more ["aliases", "custom"] fun
    | [aliases, custom] => do
      return {
        aliases := ← aliases.orElse .empty aliasDecoder
        custom := ← custom.orElse [] (.list (CustomRuleSet.decoder more)) }
    | _ => none

def toJson (r : RuleSettings) : Json :=
  .object [
    ("aliases", .object (r.aliases.entries.map fun (name, target) => (name, .string target))),
    ("custom", .array (r.custom.map CustomRuleSet.toJson))]

end RuleSettings

namespace Settings

/-- Reads settings off a document; arrays in the place of records may have `more` items than the
record has fields, or not. -/
def decoder (more : Bool) : Decoder Settings :=
  .recordWith more ["tools", "rules"] fun
    | [tools, rules] => do
      return {
        tools := ← tools.orElse {} (ToolSettings.decoder more)
        rules := ← rules.orElse {} (RuleSettings.decoder more) }
    | _ => none

def toJson (s : Settings) : Json :=
  .object [("tools", s.tools.toJson), ("rules", s.rules.toJson)]

end Settings

end FixGrader
