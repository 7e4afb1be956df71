import FixGrader.Json.Value
import FixGrader.Text.Case
/-!
# The quick check

Where the rules of the settings cannot be used, a solution is only searched for a few words that
speak for or against it, by the family that the name of its category suggests.
-/
namespace FixGrader.QuickCheck

inductive Family where
  | sqlInjection
  | xss
  | auth
  | pathTraversal
  deriving DecidableEq, Repr, Inhabited

/-- Whether a text has another one inside it. -/
def occurs (word : List Char) : List Char → Bool
  | [] => word.isEmpty
  | c :: cs => word.isPrefixOf (c :: cs) || occurs word cs

/-- Whether one of some words stands in a text. -/
def hasAny (words : List String) (text : String) : Bool :=
  words.any fun word => occurs word.toList text.toList

namespace Family

def key : Family → String
  | sqlInjection => "sql-injection"
  | xss => "xss"
  | auth => "auth"
  | pathTraversal => "path-traversal"

/-- Words in the names of categories, and the family that the first one found stands for. -/
def words : List (List String × Family) := [
  (["sql", "injection"], sqlInjection),
  (["xss", "scripting"], xss),
  (["auth", "jwt", "access", "misconfig"], auth),
  (["path", "traversal", "xxe"], pathTraversal)]

/-- The family that the name of a category suggests. -/
def ofCategory (category : String) : Option Family :=
  (words.find? fun (words, _) => hasAny words (Text.lower category)).map (·.2)

/-- Whether a solution shows what its family asks for. -/
def accepts (content : String) : Family → Bool
  | sqlInjection =>
    hasAny ["?", "$1", ":id"] content &&
      !hasAny ["' +", "\" +", "+ '", "+ \"", "$\x7b"] content
  | xss =>
    hasAny ["textContent", "innerText", "DOMPurify"] content &&
      !hasAny ["innerHTML", "document.write"] content
  | auth => hasAny ["process.env"] content && !hasAny ["Math.random"] content
  | pathTraversal =>
    hasAny ["path.resolve", "path.normalize"] content && hasAny ["startsWith"] content

def expectation : Family → String
  | sqlInjection => "expects a parameter placeholder and no string concatenation"
  | xss => "expects textContent/innerText or DOMPurify and no innerHTML"
  | auth => "expects secrets from process.env and no Math.random tokens"
  | pathTraversal => "expects path.resolve/normalize with a startsWith containment check"

end Family

structure Verdict where
  passed : Bool
  family : Option Family
  message : String
  deriving DecidableEq, Repr, Inhabited

def messageOf (passed : Bool) (detail : String) : String :=
  "Validation could only be partially performed; basic check " ++
    (if passed then "looks fixed" else "not verified") ++ " (" ++ detail ++ ")"

/-- The quick check of a solution; a category of no family never passes. -/
def check (category content : String) : Verdict :=
  match Family.ofCategory category with
  | some family =>
    let passed := family.accepts content
    ⟨passed, some family, messageOf passed family.expectation⟩
  | none => ⟨false, none, messageOf false "no simplified check exists for this category"⟩

def Verdict.toJson (v : Verdict) : Json :=
  .object [("passed", .bool v.passed), ("family", Json.ofOption (fun f => .string f.key) v.family),
    ("message", .string v.message)]

end FixGrader.QuickCheck
