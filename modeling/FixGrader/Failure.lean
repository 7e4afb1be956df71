import FixGrader.Disk
import FixGrader.Rules.RuleSet
import FixGrader.Toml.Reader
/-!
# Failures

What can keep a request from being answered, with the text that is shown for it.
-/
namespace FixGrader

inductive Failure where
  | configuration (message : String)
  | rule (category message : String)
  | manifest (path message : String)
  | noActiveChallenge
  | attemptClosed (attempt : String)
  | file (error : FileError)
  | json (error : Json.Error)
  | toml (error : Toml.Error)
  | internal (message : String)
  deriving DecidableEq, Repr

namespace Failure

def message : Failure → String
  | configuration message => "Configuration error: " ++ message
  | rule category message => "Rule error (" ++ category ++ "): " ++ message
  | manifest path message => "Manifest error in " ++ path ++ ": " ++ message
  | noActiveChallenge => "No active challenge. Start a challenge before checking a solution."
  | attemptClosed attempt =>
    "Attempt " ++ attempt ++ " is already completed; restart the challenge to try again"
  | file error => "IO error: " ++ error.message
  | json error => "JSON error: " ++ error.message
  | toml error => "TOML parse error: " ++ error.message
  | internal message => "Internal error: " ++ message

/-- The exit status of a command that fails. -/
def exitStatus (_ : Failure) : Nat := 2

def ofRuleError (e : RuleError) : Failure := .rule e.category e.message

end Failure

end FixGrader
