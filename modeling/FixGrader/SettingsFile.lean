import FixGrader.Failure
/-!
# The settings file

Settings are kept in a TOML file in the working directory. Where there is none, the standard ones
hold.
-/
namespace FixGrader.SettingsFile

def name : String := ".vulnfix.toml"

/-- Reads settings off the text of a file. -/
def ofText (text : String) : Except Toml.Error Settings := do
  let document ← Toml.ofText text
  match Settings.decoder true Json.maxDepth document with
  | some settings => return settings
  | none => throw ⟨1⟩

/-- The settings of a file; the standard ones if it does not exist. -/
def load (disk : Disk) (path : Path) : Except Failure Settings :=
  if !disk.exists? path then .ok {}
  else
    match disk.readText path with
    | .error e => .error (.file e)
    | .ok text =>
      match ofText text with
      | .error e => .error (.toml e)
      | .ok settings => .ok settings

/-- A file to begin with: the standard settings, and examples of the other ones in comments. -/
def starter : String := String.intercalate "\n" [
  "# vulnfix configuration",
  "",
  "[tools]",
  "# Run eslint with eslint-plugin-security against submitted files.",
  "static_analysis = true",
  "# Run `npm audit` when package.json declares runtime dependencies.",
  "dependency_audit = true",
  "probe_timeout_secs = 3",
  "lint_timeout_secs = 120",
  "audit_timeout_secs = 120",
  "# npx = \"npx\"",
  "# npm = \"npm\"",
  "",
  "# Map challenge categories onto rule sets.",
  "# [rules.aliases]",
  "# \"ssrf\" = \"open-redirect\"",
  "",
  "# Extra rule sets (regex syntax).",
  "# [[rules.custom]]",
  "# category = \"open-redirect\"",
  "# display_name = \"Open Redirect Prevention\"",
  "# vulnerable = ['res\\.redirect\\(\\s*req\\.']",
  "# secure = ['allowedHosts\\.has\\(']",
  ""]

end FixGrader.SettingsFile
