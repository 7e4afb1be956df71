import FixGrader.Challenge.Session
import FixGrader.Proofs.Validation.ReadBack
/-!
# What a rendered outcome says

A report for reading has a head with the points, the grade and a word that tells whether the solution
passed; a quick check has one such word. As JSON an outcome has a member for it, and the whole result
can be read back. Of two outcomes for the same challenge that are rendered alike, therefore, both
have passed or neither has.
-/
namespace FixGrader

/-- A text for reading that begins with the head of a result. -/
def Validation.BeginsReport (v : Validation) (text : String) : Prop :=
  ∃ rest, text = "\n  " ++ v.challengeId ++ " (" ++ v.category ++ ")\n  Score: " ++
    toString v.score ++ "/" ++ toString v.maxScore ++ "  Grade: " ++ v.grade.text ++ "  Status: " ++
    (if v.passed then "PASSED" else "FAILED") ++ "\n" ++ rest

/-- A text that begins with the first members of a result as JSON. -/
def Validation.BeginsObject (v : Validation) (text : String) : Prop :=
  ∃ rest, text = "\x7b\n  \"challenge_id\": " ++ Json.quote v.challengeId ++
    ",\n  \"category\": " ++ Json.quote v.category ++ ",\n  \"passed\": " ++
    (if v.passed then "true" else "false") ++ rest

namespace CheckOutcome

/-- The texts that an outcome may be shown as. -/
inductive Shown : Report.Format → CheckOutcome → String → Prop where
  | console (v : Validation) (progress : Progress) (text : String) (head : v.BeginsReport text) :
    Shown .console (.full v progress) text
  | quickConsole (verdict : QuickCheck.Verdict) (text : String)
      (whole : text = "\n  Basic check: " ++ (if verdict.passed then "PASSED" else "NOT VERIFIED") ++
        "\n  " ++ verdict.message ++ "\n\n") :
    Shown .console (.degraded verdict) text
  | json (v : Validation) (progress : Progress) (text : String)
      (head : v.BeginsObject text)
      (decoded : Timestamp.ofText? v.validatedAt.text = some v.validatedAt →
        (∀ n ∈ v.quantities, n < 2 ^ (64 : Nat)) → Validation.decoder.ofText text = .ok v) :
    Shown .json (.full v progress) text
  | quickJson (verdict : QuickCheck.Verdict) (text : String)
      (decoded : Json.ofText text = .ok (.object [("passed", .bool verdict.passed),
        ("family", verdict.family.elim .null fun family => .string family.key),
        ("message", .string verdict.message)])) :
    Shown .json (.degraded verdict) text

/-- Two results for the same challenge in the same category, or two quick checks. -/
inductive Comparable : CheckOutcome → CheckOutcome → Prop where
  | full {v v' : Validation} (progress progress' : Progress)
      (challengeId : v'.challengeId = v.challengeId) (category : v'.category = v.category) :
    Comparable (.full v progress) (.full v' progress')
  | degraded (verdict verdict' : QuickCheck.Verdict) :
    Comparable (.degraded verdict) (.degraded verdict')

end CheckOutcome

namespace Json

theorem newline_one : newline 1 = "\n  " := by decide +kernel

/-- The text of an object begins with its first member. -/
theorem pretty_object (key : String) (value : Json) (members : List (String × Json)) :
    pretty (.object ((key, value) :: members)) =
      "\x7b\n  " ++ quote key ++ ": " ++ textAt 1 value ++ membersAt 1 members ++ "\n\x7d" := by
  change "\x7b" ++ newline 1 ++ quote key ++ ": " ++ textAt 1 value ++ membersAt 1 members ++
    newline 0 ++ "\x7d" = _
  rw [newline_one, show newline 0 = "\n" by decide +kernel]
  exact String.toList_inj.mp (by simp)

theorem membersAt_one (key : String) (value : Json) (members : List (String × Json)) :
    membersAt 1 ((key, value) :: members) =
      ",\n  " ++ quote key ++ ": " ++ textAt 1 value ++ membersAt 1 members := by
  change "," ++ newline 1 ++ quote key ++ ": " ++ textAt 1 value ++ membersAt 1 members = _
  rw [newline_one]
  exact String.toList_inj.mp (by simp)

end Json

/-- What stands in front of a sign that neither part has is the same in equal lists. -/
theorem parts_unique {α : Type} {sign : α} {front front' rest rest' : List α}
    (apart : sign ∉ front) (apart' : sign ∉ front')
    (same : front ++ sign :: rest = front' ++ sign :: rest') : front = front' ∧ rest = rest' := by
  rcases List.append_eq_append_iff.mp same with ⟨between, whole, behind⟩ | ⟨between, whole, behind⟩
  all_goals cases between <;> simp_all

theorem digits_apart (n : Nat) {c : Char} (other : c.isDigit = false) : c ∉ Nat.toDigits 10 n := by
  intro listed
  rw [Nat.isDigit_of_mem_toDigits (by decide) (by decide) listed] at other
  cases other

theorem Grade.text_apart (g : Grade) : ' ' ∉ g.text.toList := by
  cases g <;> decide

namespace Validation
variable {v v' : Validation} {text : String}

theorem console_begins (v : Validation) : v.BeginsReport (Report.console v) := by
  refine ⟨Report.partialNote v ++ Report.checks v ++ Report.issues v ++ Report.recommendations v ++
    "\n", ?_⟩
  unfold Report.console Report.header
  simp only [String.append_assoc]

theorem pretty_begins (v : Validation) : v.BeginsObject v.toJson.pretty := by
  have first : Json.quote "challenge_id" = "\"challenge_id\"" := by decide +kernel
  have second : Json.quote "category" = "\"category\"" := by decide +kernel
  have third : Json.quote "passed" = "\"passed\"" := by decide +kernel
  have quoted : ∀ s, Json.textAt 1 (.string s) = Json.quote s := fun _ => rfl
  have judged : Json.textAt 1 (.bool v.passed) = if v.passed then "true" else "false" := rfl
  rw [toJson, Json.pretty_object, Json.membersAt_one, Json.membersAt_one, first, second, third,
    quoted, quoted, judged]
  generalize Json.membersAt 1 _ = members
  exact ⟨members ++ "\n\x7d", String.toList_inj.mp (by simp)⟩

/-- The head of a report for reading tells whether the solution passed. -/
theorem BeginsReport.passed_eq (challengeId : v'.challengeId = v.challengeId)
    (category : v'.category = v.category) (head : v.BeginsReport text)
    (head' : v'.BeginsReport text) : v'.passed = v.passed := by
  obtain ⟨rest, same⟩ := head
  obtain ⟨rest', same'⟩ := head'
  have letters := congrArg String.toList (same.symm.trans same')
  rw [challengeId, category] at letters
  simp only [Nat.toString_eq_repr, Nat.toList_repr, String.toList_append, String.reduceToList,
    List.cons_append, List.nil_append, List.append_assoc, List.cons.injEq,
    List.append_cancel_left_eq, true_and] at letters
  obtain ⟨-, behindScore⟩ := parts_unique (digits_apart _ rfl) (digits_apart _ rfl) letters
  obtain ⟨-, behindMax⟩ := parts_unique (digits_apart _ rfl) (digits_apart _ rfl) behindScore
  simp only [List.cons.injEq, true_and] at behindMax
  obtain ⟨-, behindGrade⟩ := parts_unique (Grade.text_apart _) (Grade.text_apart _) behindMax
  revert behindGrade
  cases v.passed <;> cases v'.passed <;> simp

/-- So do the first members of a result as JSON. -/
theorem BeginsObject.passed_eq (challengeId : v'.challengeId = v.challengeId)
    (category : v'.category = v.category) (head : v.BeginsObject text)
    (head' : v'.BeginsObject text) : v'.passed = v.passed := by
  obtain ⟨rest, same⟩ := head
  obtain ⟨rest', same'⟩ := head'
  have letters := congrArg String.toList (same.symm.trans same')
  rw [challengeId, category] at letters
  revert letters
  cases v.passed <;> cases v'.passed <;> simp

end Validation

theorem QuickCheck.Verdict.pretty_read (verdict : Verdict) :
    Json.ofText verdict.toJson.pretty = .ok (.object [("passed", .bool verdict.passed),
      ("family", verdict.family.elim .null fun family => .string family.key),
      ("message", .string verdict.message)]) := by
  have family : Json.Fits Json.Document.ReadBack 0
      (Json.ofOption (fun family => .string family.key) verdict.family) := by
    cases verdict.family with
    | none => exact .null
    | some family => exact .string _
  have fits : Json.Fits Json.Document.ReadBack 1 verdict.toJson := by
    refine .object (show ["passed", "family", "message"].Nodup by decide) ?_
    simp only [List.forall_mem_cons]
    exact ⟨.bool _, family, .string _, List.forall_mem_nil _⟩
  have read : Json.ofText verdict.toJson.pretty = .ok verdict.toJson :=
    (Json.Written.value fits).ofText (by decide)
  rw [read, toJson]
  cases verdict.family <;> rfl

namespace CheckOutcome

/-- A result that can be read back is shown by its report. -/
theorem shown_full {v : Validation} (progress : Progress) (format : Report.Format)
    (decoded : Timestamp.ofText? v.validatedAt.text = some v.validatedAt →
      (∀ n ∈ v.quantities, n < 2 ^ (64 : Nat)) → Validation.decoder.ofText v.toJson.pretty = .ok v) :
    (full v progress).Shown format ((full v progress).render format) := by
  cases format with
  | console => exact .console v progress _ v.console_begins
  | json => exact .json v progress _ v.pretty_begins decoded

theorem shown_degraded (verdict : QuickCheck.Verdict) (format : Report.Format) :
    (degraded verdict).Shown format ((degraded verdict).render format) := by
  cases format with
  | console => exact .quickConsole verdict _ rfl
  | json => exact .quickJson verdict _ verdict.pretty_read

theorem verdict_passed_eq {verdict verdict' : QuickCheck.Verdict}
    (same : "\n  Basic check: " ++ (if verdict.passed then "PASSED" else "NOT VERIFIED") ++ "\n  " ++
        verdict.message ++ "\n\n" =
      "\n  Basic check: " ++ (if verdict'.passed then "PASSED" else "NOT VERIFIED") ++ "\n  " ++
        verdict'.message ++ "\n\n") : verdict'.passed = verdict.passed := by
  have letters := congrArg String.toList same
  revert letters
  cases verdict.passed <;> cases verdict'.passed <;> simp

/-- A report tells whether the solution passed. -/
theorem Shown.passed_eq {o o' : CheckOutcome} {format : Report.Format} {text : String}
    (comparable : Comparable o o') (shown : o.Shown format text) (shown' : o'.Shown format text) :
    o'.passed = o.passed := by
  cases comparable with
  | full progress progress' challengeId category =>
    cases shown with
    | console _ _ _ head =>
      cases shown' with
      | console _ _ _ head' => exact head.passed_eq challengeId category head'
    | json _ _ _ head _ =>
      cases shown' with
      | json _ _ _ head' _ => exact head.passed_eq challengeId category head'
  | degraded verdict verdict' =>
    cases shown with
    | quickConsole _ _ whole =>
      cases shown' with
      | quickConsole _ _ whole' => exact verdict_passed_eq (whole.symm.trans whole')
    | quickJson _ _ decoded =>
      cases shown' with
      | quickJson _ _ decoded' =>
        have same := decoded.symm.trans decoded'
        simp only [Except.ok.injEq, Json.object.injEq, List.cons.injEq, Prod.mk.injEq,
          Json.bool.injEq, true_and] at same
        exact same.1.symm

end CheckOutcome

end FixGrader
