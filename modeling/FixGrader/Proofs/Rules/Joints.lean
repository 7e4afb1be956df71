import FixGrader.Proofs.Regex.Exploration
import FixGrader.Proofs.Regex.Idiom
import FixGrader.Proofs.Text.Words
import FixGrader.Rules.Catalogue
/-!
# Queries joined from strings

Two idioms of the built-in rules find SQL that is put together from strings. The quick check looks
for the same by a few fixed texts. It leaves no interpolation undetected, but of the places where
a string is joined to a name only those that are written with one space before the plus sign.
-/
namespace FixGrader.Catalogue
open Regex
open Text (Alike Caseless)

def sqlKeywords : List String := ["select", "insert", "update", "delete"]

/-- A text in which a string of SQL is joined to a name: a keyword as a word of its own, and behind
it in the same line and statement a quote, a plus sign and the first character of the name. -/
structure Joint (text : List Char) where
  before : List Char
  keyword : List Char
  between : List Char
  quote : Char
  gap : List Char
  blanks : List Char
  letter : Char
  after : List Char
  split : text =
    before ++ (keyword ++ (between ++ quote :: (gap ++ '+' :: (blanks ++ letter :: after))))
  spelled : ∃ word ∈ sqlKeywords, List.Forall₂ Alike keyword word.toList
  begins : (Assertion.wordEdge false).holds before.getLast? keyword.head? = true
  ends : (Assertion.wordEdge false).holds keyword.getLast? (between ++ [quote]).head? = true
  inStatement : ';' ∉ between ∧ '\n' ∉ between
  quotes : quote = '\'' ∨ quote = '"' ∨ quote = '\x60'
  blank : (gap ++ blanks).all Text.isBlank = true
  named : Text.isAsciiLetter letter = true ∨ letter ∈ ['_', '$', '\u212a', '\u017f']

def sqlWord : Node := .oneOf (sqlKeywords.map .spelled)

def nameStart : CharSet :=
  .union (.union (.union (.union .none (.range 'A' 'Z')) (.range 'a' 'z')) (.single '_'))
    (.single '$')

def concatenation : Node := .ofList [
  .assert (.wordEdge false), sqlWord, .assert (.wordEdge false),
  .loop (.char (.compl (.anyCase (.listed [';', '\n'])))) 0 none false,
  .char (.anyCase (.listed ['\'', '"', '\x60'])), .loop (.char .blank) 0 none true,
  .inAnyCase '+', .loop (.char .blank) 0 none true, .char (.anyCase nameStart)]

def interpolation : Node := .ofList [
  .assert (.wordEdge false), sqlWord, .assert (.wordEdge false),
  .loop (.char (.compl (.anyCase (.listed ['\x60', ';', '\n'])))) 0 none true,
  .inAnyCase '$', .inAnyCase '\x7b']

def concatenationText : String :=
  "(?i)\\b(?:select|insert|update|delete)\\b[^;\\n]*?['\"`]\\s*\\+\\s*[A-Za-z_$]"

def interpolationText : String :=
  "(?i)\\b(?:select|insert|update|delete)\\b[^`;\\n]*\\$\\\x7b"

theorem read_concatenation : (Node.ofText concatenationText).toOption = some concatenation := by
  decide +kernel

theorem read_interpolation : (Node.ofText interpolationText).toOption = some interpolation := by
  decide +kernel

theorem find_concatenation :
    sqlInjection.ruleSet.vulnerable.find? (·.id = "string-concatenation") =
      some ⟨"string-concatenation", "SQL statement built by string concatenation",
        Regex.known concatenationText⟩ := by
  rfl

theorem find_interpolation :
    sqlInjection.ruleSet.vulnerable.find? (·.id = "template-interpolation") =
      some ⟨"template-interpolation", "SQL statement built with template-literal interpolation",
        Regex.known interpolationText⟩ := by
  rfl

theorem takes_sqlWord {before taken after : List Char} : sqlWord.Takes before taken after ↔
    ∃ word ∈ sqlKeywords, List.Forall₂ Alike taken word.toList := by
  simp only [sqlWord, sqlKeywords, List.map_cons, List.map_nil, Node.oneOf, Node.Takes,
    Language.oneOf, Node.takes_spelled, List.mem_cons, List.not_mem_nil, or_false, exists_eq_or_imp,
    exists_eq_left]

theorem keyword_ne_nil {keyword : List Char}
    (spelled : ∃ word ∈ sqlKeywords, List.Forall₂ Alike keyword word.toList) : keyword ≠ [] := by
  rintro rfl
  obtain ⟨word, known, spelled⟩ := spelled
  rw [List.forall₂_nil_left_iff] at spelled
  revert word
  decide

/-- Both idioms begin with a keyword of SQL as a word of its own. -/
theorem takes_keyword {rest : List Node} {before taken after : List Char} :
    (Node.ofList (.assert (.wordEdge false) :: sqlWord :: .assert (.wordEdge false) :: rest)).Takes
        before taken after ↔
      ∃ keyword more, taken = keyword ++ more ∧
        (∃ word ∈ sqlKeywords, List.Forall₂ Alike keyword word.toList) ∧
        (Assertion.wordEdge false).holds before.getLast? keyword.head? = true ∧
        (Assertion.wordEdge false).holds keyword.getLast? (more ++ after).head? = true ∧
        (Node.ofList rest).Takes (before ++ keyword) more after := by
  rw [Node.takes_assert, Node.takes_ofList_cons]
  simp only [Language.followedBy, takes_sqlWord, Node.takes_assert]
  constructor
  · rintro ⟨begins, keyword, more, rfl, spelled, ends, takes⟩
    have filled := keyword_ne_nil spelled
    rw [List.append_assoc, List.head?_append_of_ne_nil _ filled] at begins
    rw [List.getLast?_append_of_ne_nil _ filled] at ends
    exact ⟨keyword, more, rfl, spelled, begins, ends, takes⟩
  · rintro ⟨keyword, more, rfl, spelled, begins, ends, takes⟩
    have filled := keyword_ne_nil spelled
    rw [List.append_assoc, List.head?_append_of_ne_nil _ filled]
    refine ⟨begins, keyword, more, rfl, spelled, ?_, takes⟩
    rwa [List.getLast?_append_of_ne_nil _ filled]

theorem contains_nameStart {c : Char} : nameStart.contains c = true ↔
    Text.isAsciiLetter c = true ∨ c = '_' ∨ c = '$' := by
  simp only [nameStart, CharSet.contains, CharSet.contains_single, Text.isAsciiLetter,
    Bool.or_eq_true, Bool.false_eq_true, false_or, or_assoc]
  rw [or_left_comm]

theorem contains_anyCase_nameStart {c : Char} : (CharSet.anyCase nameStart).contains c = true ↔
    Text.isAsciiLetter c = true ∨ c ∈ ['_', '$', '\u212a', '\u017f'] := by
  simp only [CharSet.contains_anyCase, contains_nameStart, List.mem_cons, List.not_mem_nil,
    or_false]
  constructor
  · rintro ((letter | rfl | rfl) | ⟨d, variant, letter | rfl | rfl⟩)
    · exact Or.inl letter
    · simp
    · simp
    · rcases Text.letter_of_alike (Or.inr variant) letter with letter | rfl | rfl
      · exact Or.inl letter
      · simp
      · simp
    · exact absurd variant (Caseless.not_mem_caseVariants (by decide) c)
    · exact absurd variant (Caseless.not_mem_caseVariants (by decide) c)
  · rintro (letter | rfl | rfl | rfl | rfl)
    · exact Or.inl (Or.inl letter)
    · simp
    · simp
    · exact Or.inr ⟨'k', by decide⟩
    · exact Or.inr ⟨'s', by decide⟩

/-- The first idiom is found where there is a joint. -/
theorem concatenation_found_iff (text : List Char) :
    (Regex.known concatenationText).findAll text.toArray ≠ [] ↔ Nonempty (Joint text) := by
  have outside {between : List Char} :
      (∀ c ∈ between, (CharSet.compl (.anyCase (.listed [';', '\n']))).contains c = true) ↔
        ';' ∉ between ∧ '\n' ∉ between := by
    have caseless : [';', '\n'].all (fun k => decide (Caseless k)) = true := by decide
    simp only [CharSet.contains_compl, CharSet.contains_anyCase_listed caseless, List.mem_cons,
      List.not_mem_nil, or_false, not_or]
    exact ⟨fun h => ⟨fun inside => (h _ inside).1 rfl, fun inside => (h _ inside).2 rfl⟩,
      fun h c listed => ⟨fun same => h.1 (same ▸ listed), fun same => h.2 (same ▸ listed)⟩⟩
  have quotes {c : Char} : (CharSet.anyCase (.listed ['\'', '"', '\x60'])).contains c = true ↔
      c = '\'' ∨ c = '"' ∨ c = '\x60' := by
    rw [CharSet.contains_anyCase_listed (by decide)]
    simp only [List.mem_cons, List.not_mem_nil, or_false]
  have plus {c : Char} : (CharSet.anyCase (.single '+')).contains c = true ↔ c = '+' :=
    CharSet.contains_anyCase_single.trans (Caseless.alike_iff (by decide))
  have blank {cs : List Char} : (∀ c ∈ cs, CharSet.blank.contains c = true) ↔
      cs.all Text.isBlank = true := List.all_eq_true.symm
  rw [findAll_ne_nil_iff read_concatenation]
  simp only [concatenation, takes_keyword, Node.inAnyCase, Node.takes_one, Node.takes_run, outside,
    quotes, plus, blank, contains_anyCase_nameStart]
  constructor
  · rintro ⟨before, _, after, rfl, keyword, _, rfl, spelled, begins, ends,
      between, _, rfl, inStatement, quote, _, rfl, quotes, gap, _, rfl, gapBlank, _, _, rfl, rfl,
      blanks, _, rfl, blanksBlank, letter, _, rfl, named, rfl⟩
    refine ⟨⟨before, keyword, between, quote, gap, blanks, letter, after, ?_, spelled, begins, ?_,
      inStatement, quotes, ?_, named⟩⟩
    · simp only [List.append_assoc, List.cons_append, List.nil_append]
    · cases between with
      | nil => exact ends
      | cons => exact ends
    · rw [List.all_append, gapBlank, blanksBlank, Bool.and_true]
  · rintro ⟨⟨before, keyword, between, quote, gap, blanks, letter, after, rfl, spelled, begins,
      ends, inStatement, quotes, blank, named⟩⟩
    rw [List.all_append, Bool.and_eq_true] at blank
    refine ⟨before, keyword ++ (between ++ quote :: (gap ++ '+' :: (blanks ++ [letter]))), after,
      ?_, keyword, _, rfl, spelled, begins, ?_, between, _, rfl, inStatement, quote, _, rfl, quotes,
      gap, _, rfl, blank.1, '+', _, rfl, rfl, blanks, _, rfl, blank.2, letter, _, rfl, named, rfl⟩
    · simp only [List.append_assoc, List.cons_append, List.nil_append]
    · cases between with
      | nil => exact ends
      | cons => exact ends

/-- The second idiom is found only where there is an interpolation. -/
theorem interpolation_inside {text : List Char}
    (found : (Regex.known interpolationText).findAll text.toArray ≠ []) :
    ['$', '\x7b'] <:+: text := by
  have only {c k : Char} (caseless : Caseless k)
      (fits : (CharSet.anyCase (.single k)).contains c = true) : c = k :=
    caseless.alike_iff.mp (CharSet.contains_anyCase_single.mp fits)
  obtain ⟨before, taken, after, rfl, takes⟩ := (findAll_ne_nil_iff read_interpolation text).mp found
  simp only [interpolation, takes_keyword, Node.inAnyCase, Node.takes_one, Node.takes_run] at takes
  obtain ⟨keyword, _, rfl, -, -, -, between, _, rfl, -, c, _, rfl, dollar, d, _, rfl, brace, rfl⟩ :=
    takes
  obtain rfl := only (by decide) dollar
  obtain rfl := only (by decide) brace
  exact ⟨before ++ keyword ++ between, after, by simp⟩

end FixGrader.Catalogue

namespace FixGrader.QuickCheck
open Catalogue Regex

/-- What the quick check lets pass has none of the texts that it looks for. -/
theorem absent_of_accepts {content : String}
    (accepts : Family.sqlInjection.accepts content = true) :
    ∀ word ∈ ["' +", "\" +", "+ '", "+ \"", "$\x7b"], ¬ word.toList <:+: content.toList := by
  rw [Family.accepts, Bool.and_eq_true, Bool.not_eq_true'] at accepts
  intro word listed inside
  have found := (hasAny_iff _ content).mpr ⟨word, listed, inside⟩
  rw [accepts.2] at found
  cases found

/-- A joint in what the quick check lets pass is written with a backquote, or not with just one
space before its plus sign. -/
theorem joint_of_accepts {content : String} (accepts : Family.sqlInjection.accepts content = true)
    (joint : Joint content.toList) : joint.quote = '\x60' ∨ joint.gap ≠ [' '] := by
  have absent := absent_of_accepts accepts
  rcases Classical.em (joint.gap = [' ']) with spaced | other
  · have split := joint.split
    rw [spaced] at split
    have inside : [joint.quote, ' ', '+'] <:+: content.toList :=
      ⟨joint.before ++ (joint.keyword ++ joint.between),
        joint.blanks ++ joint.letter :: joint.after, Eq.trans (by simp) split.symm⟩
    rcases joint.quotes with single | double | back
    · rw [single] at inside
      exact absurd inside (absent "' +" (by simp))
    · rw [double] at inside
      exact absurd inside (absent "\" +" (by simp))
    · exact Or.inl back
  · exact Or.inr other

/-- Content that the quick check lets pass has no interpolation in SQL. Joints it can have, if they
are written with a backquote, or not with just one space before the plus sign: the full check finds
them there. -/
theorem overlooked_of_passed : ∀ category content : String,
    Family.ofCategory category = some .sqlInjection → (check category content).passed = true →
    ∃ concatenation interpolation : Pattern,
      sqlInjection.ruleSet.vulnerable.find? (·.id = "string-concatenation") = some concatenation ∧
      sqlInjection.ruleSet.vulnerable.find? (·.id = "template-interpolation") = some interpolation ∧
      interpolation.regex.findAll content.toList.toArray = [] ∧
      (concatenation.regex.findAll content.toList.toArray ≠ [] ↔
        ∃ joint : Joint content.toList, joint.quote = '\x60' ∨ joint.gap ≠ [' ']) := by
  intro category content family passed
  have accepts : Family.sqlInjection.accepts content = true := by
    simpa only [check, family] using passed
  refine ⟨_, _, find_concatenation, find_interpolation, ?_, ?_⟩
  · dsimp only
    refine Classical.byContradiction fun found => ?_
    exact absent_of_accepts accepts "$\x7b" (by simp) (interpolation_inside found)
  · dsimp only
    rw [concatenation_found_iff]
    constructor
    · rintro ⟨joint⟩
      exact ⟨joint, joint_of_accepts accepts joint⟩
    · rintro ⟨joint, -⟩
      exact ⟨joint⟩

def joined (quote : Char) (gap : List Char) : List Char :=
  ("db.query(".toList ++ [quote]) ++ ("SELECT".toList ++
    (" * FROM users WHERE role = ? AND id = ".toList ++
      quote :: (gap ++ '+' :: 'i' :: "d, [role])".toList)))

def joinedJoint {quote : Char} {gap : List Char}
    (quotes : quote = '\'' ∨ quote = '"' ∨ quote = '\x60') (blank : gap.all Text.isBlank = true) :
    Joint (joined quote gap) where
  before := "db.query(".toList ++ [quote]
  keyword := "SELECT".toList
  between := " * FROM users WHERE role = ? AND id = ".toList
  quote := quote
  gap := gap
  blanks := []
  letter := 'i'
  after := "d, [role])".toList
  split := rfl
  spelled := ⟨"select", by decide, by decide⟩
  begins := by
    rcases quotes with rfl | rfl | rfl
    all_goals decide
  ends := rfl
  inStatement := by decide
  quotes := quotes
  blank := by rwa [List.append_nil]
  named := by decide

theorem overlooked_of_passed_tight :
    Family.ofCategory "injection" = some .sqlInjection ∧
      (check "injection" (String.ofList (joined '"' []))).passed = true ∧
      ∃ concatenation,
        sqlInjection.ruleSet.vulnerable.find? (·.id = "string-concatenation") = some concatenation ∧
        concatenation.regex.findAll (String.ofList (joined '"' [])).toList.toArray ≠ [] := by
  have family : Family.ofCategory "injection" = some .sqlInjection := by decide
  have passed : (check "injection" (String.ofList (joined '"' []))).passed = true := by
    decide +kernel
  obtain ⟨concatenation, -, known, -, -, found⟩ := overlooked_of_passed _ _ family passed
  refine ⟨family, passed, concatenation, known, found.mpr ?_⟩
  rw [String.toList_ofList]
  exact ⟨joinedJoint (by decide) (by decide), Or.inr (by decide)⟩

theorem passed_backquoted :
    Family.ofCategory "sql-injection" = some .sqlInjection ∧
      (check "sql-injection" (String.ofList (joined '\x60' [' ']))).passed = true ∧
      ∃ p ∈ sqlInjection.ruleSet.vulnerable, p.id = "string-concatenation" ∧
        p.regex.findAll (String.ofList (joined '\x60' [' '])).toList.toArray ≠ [] := by
  refine ⟨by decide, by decide +kernel, _, List.mem_of_find?_eq_some find_concatenation, rfl, ?_⟩
  dsimp only
  rw [concatenation_found_iff, String.toList_ofList]
  exact ⟨joinedJoint (by decide) (by decide)⟩

end FixGrader.QuickCheck
