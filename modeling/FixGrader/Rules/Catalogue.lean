import FixGrader.Rules.RuleSet
/-!
# The built-in rules

Four categories of vulnerabilities, each with patterns of idioms that show the vulnerability and
of idioms that avoid it, and further names for these categories.
-/
namespace FixGrader.Catalogue

/-- A pattern as it is written in a table: its name, its text and what it finds. -/
structure Idiom where
  id : String
  regex : String
  description : String

structure Definition where
  category : String
  displayName : String
  recommendation : String
  vulnerable : List Idiom
  secure : List Idiom

/-- Queries put together from strings instead of bound parameters. -/
def sqlInjection : Definition where
  category := "sql-injection"
  displayName := "SQL Injection Prevention"
  recommendation :=
    "Use parameterized queries (e.g. db.query(sql, [value])) or prepared " ++
      "statements instead of building SQL from strings."
  vulnerable := [
    ⟨"string-concatenation",
      "(?i)\\b(?:select|insert|update|delete)\\b[^;\\n]*?['\"`]\\s*\\+\\s*[A-Za-z_$]",
      "SQL statement built by string concatenation"⟩,
    ⟨"template-interpolation",
      "(?i)\\b(?:select|insert|update|delete)\\b[^`;\\n]*\\$\\\x7b",
      "SQL statement built with template-literal interpolation"⟩,
    ⟨"query-append",
      "(?i)\\b(?:query|sql)\\w*\\s*\\+=\\s*(?:[A-Za-z_$]|[^;\\n]*?['\"`]\\s*\\+\\s*[A-Za-z_$])",
      "Query string extended with a variable"⟩,
    ⟨"raw-request-input",
      "\\.(?:query|execute|raw)\\(\\s*req\\.(?:body|query|params)",
      "Request input passed directly as SQL text"⟩]
  secure := [
    ⟨"parameter-array",
      "\\.(?:query|execute|run|all|get)\\(\\s*[^,()\\n]+,\\s*\\[",
      "Query executed with a bound parameter array"⟩,
    ⟨"named-parameters",
      "\\.(?:query|execute)\\(\\s*[^,()\\n]+,\\s*\\\x7b",
      "Query executed with named parameters"⟩,
    ⟨"prepared-statement",
      "\\.prepare\\s*\\(",
      "Prepared statement"⟩,
    ⟨"driver-escape",
      "\\b(?:mysql|connection|conn|db|pool)\\.escape\\s*\\(",
      "Driver-provided escaping"⟩]

/-- Data written into markup without escaping. -/
def xss : Definition where
  category := "xss"
  displayName := "XSS Prevention"
  recommendation :=
    "Insert untrusted data with textContent/createTextNode, or sanitize it " ++
      "(DOMPurify.sanitize, an HTML escaper) before rendering."
  vulnerable := [
    ⟨"inner-html-assignment",
      "\\.innerHTML\\s*\\+?=\\s*[^=\\s]",
      "Markup assigned through innerHTML"⟩,
    ⟨"outer-html-assignment",
      "\\.outerHTML\\s*\\+?=\\s*[^=\\s]",
      "Markup assigned through outerHTML"⟩,
    ⟨"document-write",
      "\\bdocument\\.write(?:ln)?\\s*\\(",
      "document.write with dynamic content"⟩,
    ⟨"insert-adjacent-html",
      "\\.insertAdjacentHTML\\s*\\(",
      "Markup inserted through insertAdjacentHTML"⟩,
    ⟨"dangerously-set-inner-html",
      "\\bdangerouslySetInnerHTML\\b",
      "React dangerouslySetInnerHTML"⟩,
    ⟨"eval-call",
      "\\beval\\s*\\(",
      "eval of dynamic content"⟩,
    ⟨"reflected-request-input",
      ("\\bres\\.(?:send|write)\\(\\s*(?:(?:['\"][^'\"\\n]*['\"]\\s*\\+\\s*)?" ++
        "req\\.(?:query|body|params)|`[^`]*\\$\\\x7b\\s*req\\.(?:query|body|params))"),
      "Request input reflected into the response body"⟩]
  secure := [
    ⟨"text-content",
      "\\.textContent\\s*=",
      "Text inserted with textContent"⟩,
    ⟨"inner-text",
      "\\.innerText\\s*=",
      "Text inserted with innerText"⟩,
    ⟨"create-text-node",
      "\\bcreateTextNode\\s*\\(",
      "Text node creation"⟩,
    ⟨"dompurify",
      "\\bDOMPurify\\.sanitize\\s*\\(",
      "DOMPurify sanitization"⟩,
    ⟨"escape-helper",
      "\\b(?:escapeHtml|escapeHTML|sanitizeHtml|encodeURIComponent)\\s*\\(",
      "HTML escaping helper"⟩]

/-- Secrets in the source, tokens that are not verified, and weak handling of credentials. -/
def auth : Definition where
  category := "auth"
  displayName := "Authentication Security"
  recommendation :=
    "Load secrets from the environment, verify tokens with jwt.verify, hash " ++
      "passwords with bcrypt and generate tokens with crypto.randomBytes."
  vulnerable := [
    ⟨"hardcoded-secret",
      ("(?i)\\b\\w*(?:secret|password|passwd|api_?key|token)\\w*\\s*[:=]\\s*" ++
        "['\"][^'\"\\n]\x7b1,16\x7d['\"]"),
      "Short secret hardcoded in source"⟩,
    ⟨"literal-signing-key",
      "\\bjwt\\.(?:sign|verify)\\([^,\\n]+,\\s*['\"][^'\"\\n]*['\"]",
      "JWT signed or verified with a literal key"⟩,
    ⟨"alg-none",
      "(?i)\\balgorithms?\\s*:\\s*\\[?\\s*['\"]none['\"]",
      "JWT 'none' algorithm accepted"⟩,
    ⟨"decode-without-verify",
      "\\bjwt\\.decode\\s*\\(",
      "JWT decoded without signature verification"⟩,
    ⟨"plaintext-password-compare",
      "(?i)\\bpassword\\w*\\s*[!=]==?\\s*[\\w.]",
      "Password compared in plaintext"⟩,
    ⟨"insecure-random-token",
      "\\bMath\\.random\\s*\\(",
      "Token generated with Math.random"⟩]
  secure := [
    ⟨"env-secret",
      "\\bprocess\\.env\\.[A-Z_][A-Z0-9_]*",
      "Secret loaded from the environment"⟩,
    ⟨"password-hash",
      "\\b(?:bcrypt|argon2|scrypt)\\.(?:compare|hash|verify)\\w*\\s*\\(",
      "Password hashing library"⟩,
    ⟨"jwt-verify",
      "\\bjwt\\.verify\\s*\\(",
      "JWT signature verification"⟩,
    ⟨"crypto-random",
      "\\bcrypto\\.(?:randomBytes|randomUUID|getRandomValues)\\s*\\(",
      "Cryptographically secure randomness"⟩,
    ⟨"timing-safe-compare",
      "\\bcrypto\\.timingSafeEqual\\s*\\(",
      "Constant-time comparison"⟩]

/-- File paths made of request input without a check that they stay inside a directory. -/
def pathTraversal : Definition where
  category := "path-traversal"
  displayName := "Path Traversal Prevention"
  recommendation :=
    "Resolve the requested path against a fixed base directory and reject " ++
      "it unless the result still starts with that base."
  vulnerable := [
    ⟨"join-request-input",
      "\\bpath\\.join\\([^()\\n]*\\breq\\.(?:params|query|body)",
      "path.join with raw request input"⟩,
    ⟨"fs-request-input",
      "\\bfs\\.\\w+\\(\\s*req\\.(?:params|query|body)",
      "File system call on raw request input"⟩,
    ⟨"concat-request-input",
      "['\"`][^'\"`\\n]*/['\"`]\\s*\\+\\s*req\\.(?:params|query|body)",
      "Directory string concatenated with request input"⟩,
    ⟨"send-file-request-input",
      "\\bres\\.(?:sendFile|download)\\(\\s*req\\.(?:params|query|body)",
      "sendFile/download on raw request input"⟩]
  secure := [
    ⟨"path-resolve",
      "\\bpath\\.resolve\\s*\\(",
      "Path resolved to an absolute location"⟩,
    ⟨"path-normalize",
      "\\bpath\\.normalize\\s*\\(",
      "Path normalized"⟩,
    ⟨"containment-check",
      "\\.startsWith\\s*\\(",
      "Resolved path checked against base directory"⟩,
    ⟨"basename",
      "\\bpath\\.basename\\s*\\(",
      "Directory components stripped with basename"⟩,
    ⟨"realpath",
      "\\brealpath(?:Sync)?\\s*\\(",
      "Symlinks resolved with realpath"⟩]

def definitions : List Definition := [sqlInjection, xss, auth, pathTraversal]

/-- The category whose rules are used where no other ones fit. -/
def defaultCategory : String := sqlInjection.category

/-- Further names of the categories. -/
def aliases : NameTable String := .ofList [
  ("injection", "sql-injection"),
  ("sqli", "sql-injection"),
  ("nosql-injection", "sql-injection"),
  ("cross-site-scripting", "xss"),
  ("broken-auth", "auth"),
  ("broken-access", "auth"),
  ("security-misconfig", "auth"),
  ("authentication", "auth"),
  ("jwt", "auth"),
  ("xxe", "path-traversal"),
  ("directory-traversal", "path-traversal"),
  ("lfi", "path-traversal")]

def Idiom.pattern (i : Idiom) : Pattern := ⟨i.id, i.description, Regex.known i.regex⟩

def Definition.ruleSet (d : Definition) : RuleSet where
  category := d.category
  displayName := d.displayName
  recommendation := some d.recommendation
  vulnerable := d.vulnerable.map Idiom.pattern
  secure := d.secure.map Idiom.pattern

/-- The built-in rule sets. -/
def ruleSets : List RuleSet := definitions.map Definition.ruleSet

end FixGrader.Catalogue
