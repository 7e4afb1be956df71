import FixGrader.Regex.CharSet
/-!
# Named character properties

The sets that a pattern can name: general categories, scripts, yes-or-no properties, the version
that first had a character, and the classes that divide a text. Case, blanks, hyphens, underscores
and a leading `is` do not count in a name.
-/
namespace FixGrader.Regex

/-- The form of a name in which only its letters and digits count. -/
def looseName (s : String) : String :=
  let kept (cs : List Char) : List Char :=
    (cs.filter fun c => c != ' ' && c != '_' && c != '-' && Text.isAscii c).map fun c =>
      if 'A' ≤ c ∧ c ≤ 'Z' then Char.ofNat (c.toNat + 32) else c
  match s.toList with
  | i :: s' :: rest =>
    if (i = 'i' ∨ i = 'I') ∧ (s' = 's' ∨ s' = 'S') then
      let rest := kept rest
      if rest = ['c'] then "isc" else String.ofList rest
    else String.ofList (kept (i :: s' :: rest))
  | cs => String.ofList (kept cs)

/-- The names of each general category, and the two-letter categories that it consists of. -/
def categoryNames : List (List String × List String) := [
  (["c", "other"], ["cc", "cf", "cn", "co"]),
  (["cc", "control", "cntrl"], ["cc"]),
  (["cf", "format"], ["cf"]),
  (["cn", "unassigned"], ["cn"]),
  (["co", "privateuse"], ["co"]),
  (["l", "letter"], ["ll", "lm", "lo", "lt", "lu"]),
  (["lc", "casedletter"], ["ll", "lt", "lu"]),
  (["ll", "lowercaseletter"], ["ll"]),
  (["lm", "modifierletter"], ["lm"]),
  (["lo", "otherletter"], ["lo"]),
  (["lt", "titlecaseletter"], ["lt"]),
  (["lu", "uppercaseletter"], ["lu"]),
  (["m", "mark", "combiningmark"], ["mc", "me", "mn"]),
  (["mc", "spacingmark"], ["mc"]),
  (["me", "enclosingmark"], ["me"]),
  (["mn", "nonspacingmark"], ["mn"]),
  (["n", "number"], ["nd", "nl", "no"]),
  (["nd", "decimalnumber", "digit"], ["nd"]),
  (["nl", "letternumber"], ["nl"]),
  (["no", "othernumber"], ["no"]),
  (["p", "punctuation", "punct"], ["pc", "pd", "pe", "pf", "pi", "po", "ps"]),
  (["pc", "connectorpunctuation"], ["pc"]),
  (["pd", "dashpunctuation"], ["pd"]),
  (["pe", "closepunctuation"], ["pe"]),
  (["pf", "finalpunctuation"], ["pf"]),
  (["pi", "initialpunctuation"], ["pi"]),
  (["po", "otherpunctuation"], ["po"]),
  (["ps", "openpunctuation"], ["ps"]),
  (["s", "symbol"], ["sc", "sk", "sm", "so"]),
  (["sc", "currencysymbol"], ["sc"]),
  (["sk", "modifiersymbol"], ["sk"]),
  (["sm", "mathsymbol"], ["sm"]),
  (["so", "othersymbol"], ["so"]),
  (["z", "separator"], ["zl", "zp", "zs"]),
  (["zl", "lineseparator"], ["zl"]),
  (["zp", "paragraphseparator"], ["zp"]),
  (["zs", "spaceseparator"], ["zs"])]

def unionOfCategories (names : List String) : CharSet :=
  names.foldr (fun n s => CharSet.union (.table (Text.category n)) s) .none

/-- The general category of a name. -/
def categorySet? (name : String) : Option CharSet :=
  if name = "any" then some .all
  else if name = "assigned" then some (.compl (.table (Text.category "cn")))
  else if name = "ascii" then some (.range '\x00' '\x7f')
  else (categoryNames.find? (·.1.contains name)).map fun row => unionOfCategories row.2

def scriptSet? (name : String) : Option CharSet :=
  (Text.rowNamed? Text.scriptTable name).map .table

def scriptExtensionSet? (name : String) : Option CharSet :=
  (Text.rowNamed? Text.scriptExtensionTable name).map .table

/-- The characters that were assigned in a version or before it. -/
def ageSet? (version : String) : Option CharSet :=
  (Text.rowsUpTo? Text.ageTable version).map fun rows =>
    rows.foldr (fun t s => CharSet.union (.table t) s) .none

def boundarySet? (table : List (String × String)) (name : String) : Option CharSet :=
  (Text.rowNamed? table name).map .table

/-- Names that stand for a general category although a property has the same abbreviation. -/
def categoryFirst : List String := ["cf", "sc", "lc"]

/-- The set of a single name: a property, a general category or a script. -/
def namedSet? (name : String) : Option CharSet :=
  let name := looseName name
  let property :=
    if categoryFirst.contains name then none else (Text.binaryProperty? name).map CharSet.table
  property <|> categorySet? name <|> scriptSet? name

/-- The set of the characters for which a property has a value. -/
def valueSet? (property value : String) : Option CharSet :=
  let value := looseName value
  match looseName property with
  | "gc" | "generalcategory" => categorySet? value
  | "sc" | "script" => scriptSet? value
  | "scx" | "scriptextensions" => scriptExtensionSet? value
  | "age" => ageSet? value
  | "gcb" | "graphemeclusterbreak" => boundarySet? Text.graphemeTable value
  | "wb" | "wordbreak" => boundarySet? Text.wordBreakTable value
  | "sb" | "sentencebreak" => boundarySet? Text.sentenceTable value
  | _ => none

end FixGrader.Regex
