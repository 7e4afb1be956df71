import Mathlib.Data.List.DropRight
import FixGrader.Proofs.Lint.Completion
import FixGrader.Proofs.Text.Folding
import FixGrader.Proofs.Text.Words
/-!
# Names of packages

A manifest that is made for a workspace names its package after the directory. Whatever the
directory is called, the name is not empty, it is put together of small letters, digits, dashes and
underscores of ASCII, and it has no dash at its ends. An underscore in front is not taken off: the
name begins with a letter or a digit exactly if the first character of the directory that survives
is no underscore. A directory that has such a name already gives it to the package unchanged.
-/
namespace FixGrader
namespace Manifest

def isPlain (c : Char) : Bool := ('a' ≤ c && c ≤ 'z') || Text.isAsciiDigit c

def isAllowed (c : Char) : Bool := isPlain c || c = '-' || c = '_'

/-- What holds of the name of every package. -/
structure Tidy (name : String) : Prop where
  filled : name ≠ ""
  allowed : name.toList.all isAllowed = true
  starts : name.toList.head? ≠ some '-'
  ends : name.toList.getLast? ≠ some '-'

/-- The form that the name of a package is to have: it begins with a letter or a digit, too. -/
structure Proper (name : String) : Prop extends Tidy name where
  begins : ∃ c ∈ name.toList.head?, isPlain c = true

theorem Tidy.proper_iff {name : String} (tidy : Tidy name) :
    Proper name ↔ name.toList.head? ≠ some '_' := by
  constructor
  · intro proper underscore
    obtain ⟨c, head, plain⟩ := proper.begins
    cases head.symm.trans underscore
    exact absurd plain (by decide)
  · intro unlike
    obtain ⟨c, rest, split⟩ := List.exists_cons_of_ne_nil (mt String.toList_eq_nil_iff.mp tidy.filled)
    have head : name.toList.head? = some c := by rw [split, List.head?_cons]
    have allowed : isAllowed c = true :=
      List.all_eq_true.mp tidy.allowed c (List.mem_of_head? head)
    simp only [isAllowed, Bool.or_eq_true, decide_eq_true_eq] at allowed
    rcases allowed with (plain | rfl) | rfl
    · exact ⟨tidy, c, head, plain⟩
    · exact absurd head tidy.starts
    · exact absurd head unlike

theorem trimDashes_eq (cs : List Char) :
    trimDashes cs = (cs.dropWhile (· = '-')).rdropWhile (· = '-') := rfl

/-- The first character that is no dash comes first: what is taken off at the end is behind it. -/
theorem head_trimDashes (cs : List Char) : (trimDashes cs).head? = cs.find? (· ≠ '-') := by
  induction cs with
  | nil => rfl
  | cons c cs ih =>
    by_cases dash : c = '-'
    · have dropped : trimDashes (c :: cs) = trimDashes cs := by
        rw [trimDashes_eq, List.dropWhile_cons_of_pos (by simpa using dash), ← trimDashes_eq]
      rw [dropped, ih, List.find?_cons_of_neg (by simpa using dash)]
    · have front : (c :: cs).dropWhile (· = '-') = c :: cs :=
        List.dropWhile_cons_of_neg (by simpa using dash)
      have filled : trimDashes (c :: cs) ≠ [] := by
        rw [trimDashes_eq, front, Ne, List.rdropWhile_eq_nil_iff]
        intro dashes
        exact dash (by simpa using dashes c List.mem_cons_self)
      obtain ⟨d, rest, split⟩ := List.exists_cons_of_ne_nil filled
      have leads : d :: rest <+: c :: cs := by
        rw [← split, trimDashes_eq, front]
        exact List.rdropWhile_prefix _ _
      rw [split, (List.cons_prefix_cons.mp leads).1, List.head?_cons,
        List.find?_cons_of_pos (by simpa using dash)]

theorem last_trimDashes (cs : List Char) : (trimDashes cs).getLast? ≠ some '-' := by
  intro last
  rw [trimDashes_eq] at last
  obtain ⟨filled, dash⟩ := List.mem_getLast?_eq_getLast last
  apply List.rdropWhile_last_not _ _ filled
  rw [← dash]
  rfl

theorem mem_of_trimDashes {cs : List Char} {c : Char} (kept : c ∈ trimDashes cs) : c ∈ cs := by
  rw [trimDashes_eq] at kept
  exact (List.dropWhile_sublist _).mem ((List.rdropWhile_prefix _ _).mem kept)

theorem trimDashes_self {cs : List Char} (starts : cs.head? ≠ some '-')
    (ends : cs.getLast? ≠ some '-') : trimDashes cs = cs := by
  have front : cs.dropWhile (· = '-') = cs := by
    cases cs with
    | nil => rfl
    | cons c rest =>
      apply List.dropWhile_cons_of_neg
      simpa using starts
  rw [trimDashes_eq, front, List.rdropWhile_eq_self_iff]
  intro filled dash
  rw [List.getLast?_eq_some_getLast filled] at ends
  exact ends (congrArg some (of_decide_eq_true dash))

def dashed (c : Char) : Char := if isNameChar c then c else '-'

/-- What becomes of a character wherever it stands. -/
def spelled (c : Char) : List Char := (Text.lowered c).map dashed

/-- Neighbours have a say in the lower case of a sigma only, for which there is a dash either way. -/
theorem map_dashed_lower (name : String) :
    (Text.lower name).toList.map dashed = name.toList.flatMap spelled := by
  have sigma : ∀ c, dashed (Text.plainSigma c) = dashed c := by
    intro c
    unfold Text.plainSigma
    split
    · rename_i final
      rw [final]
      rfl
    · rfl
  calc (Text.lower name).toList.map dashed
      = ((Text.lower name).toList.map Text.plainSigma).map dashed := by
        rw [List.map_map]
        exact List.map_congr_left fun c _ => (sigma c).symm
    _ = (name.toList.flatMap Text.lowered).map dashed := by
        rw [Text.lower, String.toList_ofList, Text.lowerAfter_plainSigma]
    _ = name.toList.flatMap spelled := List.map_flatMap

/-- The characters that are seen in the name of a package as more than dashes. Two of them are not
of ASCII, but have a letter of it in lower case. -/
def survives (c : Char) : Bool :=
  Text.isAsciiLetter c || Text.isAsciiDigit c || c = '_' || c = 'İ' || c = '\u212a'

/-- What is first seen of a character. -/
def face (c : Char) : Option Char := (spelled c).find? (· ≠ '-')

theorem spelled_ascii : ∀ n < 128,
    (spelled (Char.ofNat n)).all isAllowed = true ∧
      (face (Char.ofNat n)).isSome = survives (Char.ofNat n) ∧
      (face (Char.ofNat n) = some '_' ↔ Char.ofNat n = '_') := by
  decide +kernel

theorem spelled_allowed_ascii : ∀ n < 128, isAllowed (Char.ofNat n) = true →
    spelled (Char.ofNat n) = [Char.ofNat n] := by
  decide +kernel

theorem ascii_of_isNameChar {c : Char} (marked : isNameChar c = true) :
    Text.isAscii c = true ∧ c ≠ '\x00' := by
  constructor
  · simp only [isNameChar, Text.isAsciiLetter, Text.isAsciiDigit, Bool.or_eq_true, Bool.and_eq_true,
      decide_eq_true_eq] at marked
    rcases marked with (((⟨-, high⟩ | ⟨-, high⟩) | ⟨-, high⟩) | rfl) | rfl
    · exact Text.isAscii_of_le high (by decide)
    · exact Text.isAscii_of_le high (by decide)
    · exact Text.isAscii_of_le high (by decide)
    · rfl
    · rfl
  · rintro rfl
    exact absurd marked (by decide)

theorem spelled_outside {c : Char} (outside : ¬ Text.isAscii c = true) (dotted : c ≠ 'İ')
    (kelvin : c ≠ '\u212a') : ∀ d ∈ spelled c, d = '-' := by
  intro d listed
  obtain ⟨e, lower, rfl⟩ := List.mem_map.mp listed
  rw [dashed, if_neg]
  intro marked
  have other : e ≠ 'σ' := by
    rintro rfl
    exact absurd marked (by decide)
  unfold Text.lowered at lower
  split at lower
  · exact other (List.mem_singleton.mp lower)
  · obtain ⟨b, part, rfl⟩ := List.mem_map.mp lower
    unfold Text.plainSigma at marked other
    split at marked
    · exact absurd marked (by decide)
    · obtain ⟨ascii, filled⟩ := ascii_of_isNameChar marked
      rcases Text.outside_of_mem_lowerChar part outside ascii filled with rfl | rfl
      · exact dotted rfl
      · exact kelvin rfl

theorem survives_outside {c : Char} (outside : ¬ Text.isAscii c = true) (dotted : c ≠ 'İ')
    (kelvin : c ≠ '\u212a') : survives c = false := by
  rw [← Bool.not_eq_true]
  intro survivor
  simp only [survives, Bool.or_eq_true, decide_eq_true_eq, dotted, kelvin, or_false] at survivor
  have marked : isNameChar c = true := by
    simp only [isNameChar, Bool.or_eq_true, decide_eq_true_eq]
    tauto
  exact outside (ascii_of_isNameChar marked).1

theorem spelled_cases (c : Char) : (spelled c).all isAllowed = true ∧
    (face c).isSome = survives c ∧ (face c = some '_' ↔ c = '_') := by
  by_cases inside : Text.isAscii c = true
  · have small : c.toNat < 128 := of_decide_eq_true inside
    have spelling := spelled_ascii c.toNat small
    rwa [Char.ofNat_toNat] at spelling
  by_cases dotted : c = 'İ'
  · subst dotted
    decide +kernel
  by_cases kelvin : c = '\u212a'
  · subst kelvin
    decide +kernel
  have dashes := spelled_outside inside dotted kelvin
  have hidden : face c = none := by
    rw [face, List.find?_eq_none]
    intro d listed
    simpa using dashes d listed
  refine ⟨?_, ?_, ?_⟩
  · rw [List.all_eq_true]
    intro d listed
    rw [dashes d listed]
    rfl
  · rw [hidden, survives_outside inside dotted kelvin]
    rfl
  · rw [hidden]
    constructor
    · intro underscore
      cases underscore
    · rintro rfl
      exact absurd rfl inside

theorem spelled_allowed {c : Char} (allowed : isAllowed c = true) : spelled c = [c] := by
  have marked : isNameChar c = true := by
    simp only [isAllowed, isPlain, Bool.or_eq_true] at allowed
    simp only [isNameChar, Text.isAsciiLetter, Bool.or_eq_true]
    tauto
  have small : c.toNat < 128 := of_decide_eq_true (ascii_of_isNameChar marked).1
  rw [← Char.ofNat_toNat c] at allowed ⊢
  exact spelled_allowed_ascii c.toNat small allowed

def shown (name : String) : List Char := trimDashes (name.toList.flatMap spelled)

theorem packageName_eq (root : Path) : packageName root =
    if shown (root.fileName?.getD "") = [] then "vulnfix-challenge"
    else String.ofList (shown (root.fileName?.getD "")) := by
  rw [shown, ← map_dashed_lower]
  unfold packageName dashed
  generalize (Text.lower (root.fileName?.getD "")).toList = cs
  dsimp only
  cases trimDashes (cs.map fun c => if isNameChar c = true then c else '-') with
  | nil => rfl
  | cons c rest => rfl

theorem head_shown (name : String) : (shown name).head? = name.toList.findSome? face := by
  rw [shown, head_trimDashes, List.find?_flatMap]
  rfl

theorem head_shown_iff (name : String) :
    (shown name).head? = some '_' ↔ name.toList.find? survives = some '_' := by
  have hidden : ∀ c, face c = none ↔ (!survives c) = true := by
    intro c
    rw [← (spelled_cases c).2.1]
    simp
  rw [head_shown, List.findSome?_eq_some_iff, List.find?_eq_some_iff_append]
  constructor
  · rintro ⟨before, c, behind, split, seen, unseen⟩
    obtain rfl := (spelled_cases c).2.2.mp seen
    exact ⟨rfl, before, behind, split, fun c listed => (hidden c).mp (unseen c listed)⟩
  · rintro ⟨-, before, behind, split, unseen⟩
    exact ⟨before, '_', behind, split, rfl, fun c listed => (hidden c).mpr (unseen c listed)⟩

theorem head_packageName_iff (root : Path) : (packageName root).toList.head? = some '_' ↔
    (root.fileName?.getD "").toList.find? survives = some '_' := by
  rw [← head_shown_iff, packageName_eq]
  split
  · rename_i nothing
    rw [nothing]
    decide
  · rw [String.toList_ofList]

theorem packageName_tidy (root : Path) : Tidy (packageName root) := by
  rw [packageName_eq]
  split
  · exact ⟨by decide, by decide, by decide, by decide⟩
  · rename_i something
    refine ⟨?_, ?_, ?_, ?_⟩
    · simpa using something
    · rw [String.toList_ofList, List.all_eq_true]
      intro c listed
      obtain ⟨b, -, spelt⟩ := List.mem_flatMap.mp (mem_of_trimDashes listed)
      exact List.all_eq_true.mp (spelled_cases b).1 c spelt
    · rw [String.toList_ofList, shown, head_trimDashes]
      intro dash
      exact absurd (List.find?_some dash) (by decide)
    · rw [String.toList_ofList]
      exact last_trimDashes _

theorem packageName_of_tidy {root : Path} {name : String} (called : root.fileName? = some name)
    (tidy : Tidy name) : packageName root = name := by
  have same : name.toList.flatMap spelled = name.toList := by
    calc name.toList.flatMap spelled
        = name.toList.flatMap fun c => [c] :=
          List.flatMap_congr fun c listed =>
            spelled_allowed (List.all_eq_true.mp tidy.allowed c listed)
      _ = name.toList := List.flatMap_singleton' _
  have unchanged : shown name = name.toList := by
    rw [shown, same, trimDashes_self tidy.starts tidy.ends]
  rw [packageName_eq, called, Option.getD_some, unchanged,
    if_neg (mt String.toList_eq_nil_iff.mp tidy.filled), String.ofList_toList]

end Manifest

namespace Lint.Setup
open Json

theorem Completes.named {d d' : Disk} {root : Path} {setup : Setup} (h : Completes d root setup d')
    (new : setup.createdManifest = true) : ∃ members, Holds d' root members ∧
      find? "name" members = some (.string (Manifest.packageName root)) := by
  cases h with
  | left => cases new
  | @written wrote created members dependencies _ read development needed write =>
    obtain rfl : created = true := new
    rcases manifestMembers_ok read with ⟨created, -⟩ | ⟨-, -, rfl⟩
    · cases created
    · have parsed := ofText_completedText (Manifest.initial_fits root _) development
      refine ⟨_, ⟨_, readText_rewritten read write, parsed⟩, ?_⟩
      rw [Manifest.withLinter, find_insert_other (by decide)]
      rfl

theorem ensure_named {d d' : Disk} {root : Path} {setup : Setup}
    (prepared : ensure d root = (.ok setup, d')) (new : setup.createdManifest = true) :
    ∃ members, Holds d' root members ∧
      find? "name" members = some (.string (Manifest.packageName root)) := by
  obtain ⟨_, _, _, complete⟩ := ensure_ok prepared
  exact (completes_of_ok complete).named new

end Lint.Setup

namespace Manifest

/-- Every name is tidy. It is a proper one exactly if the first character of the directory that
survives is no underscore; a directory with a tidy name, proper or not, keeps it; and the name is
read off the manifest that is made. -/
theorem packageName_proper_iff (root : Path) :
    Tidy (packageName root) ∧
      (Proper (packageName root) ↔
        (root.fileName?.getD "").toList.find? survives ≠ some '_') ∧
      (∀ name, root.fileName? = some name → Tidy name → packageName root = name) ∧
      ∀ disk setup disk', Lint.Setup.ensure disk root = (.ok setup, disk') →
        setup.createdManifest = true → ∃ members, Lint.Setup.Holds disk' root members ∧
          Json.find? "name" members = some (.string (packageName root)) := by
  have tidy : Tidy (packageName root) := packageName_tidy root
  refine ⟨tidy, ?_, ?_, ?_⟩
  · rw [tidy.proper_iff, not_iff_not, head_packageName_iff]
  · intro name called kept
    exact packageName_of_tidy called kept
  · intro disk setup disk' prepared new
    exact Lint.Setup.ensure_named prepared new

/-- A directory called by the Kelvin sign, which counts as a letter here. -/
def kelvinDisk : Disk := ⟨[(["\u212a_2"], .directory true)], []⟩

theorem packageName_proper_iff_kelvin : ∃ disk members,
    Lint.Setup.ensure kelvinDisk ⟨"/\u212a_2"⟩ = (.ok ⟨true, true, true⟩, disk) ∧
      Lint.Setup.Holds disk ⟨"/\u212a_2"⟩ members ∧
      Json.find? "name" members = some (.string "k_2") ∧ Proper "k_2" ∧
      Tidy "shop_2" ∧ packageName ⟨"/srv/shop_2"⟩ = "shop_2" := by
  obtain ⟨-, proper_iff, -, named⟩ := packageName_proper_iff ⟨"/\u212a_2"⟩
  have name : packageName ⟨"/\u212a_2"⟩ = "k_2" := by decide +kernel
  have told : (Lint.Setup.ensure kelvinDisk ⟨"/\u212a_2"⟩).1.toOption = some ⟨true, true, true⟩ := by
    decide +kernel
  have kept : Tidy "shop_2" := ⟨by decide, by decide, by decide, by decide⟩
  rw [name] at proper_iff named
  cases prepared : Lint.Setup.ensure kelvinDisk ⟨"/\u212a_2"⟩ with
  | mk result disk =>
    rw [prepared] at told
    cases result with
    | error e => cases told
    | ok setup =>
      cases Option.some.inj told
      obtain ⟨members, holds, found⟩ := named _ _ _ prepared rfl
      refine ⟨disk, members, rfl, holds, found, proper_iff.mpr (by decide +kernel), kept, ?_⟩
      exact (packageName_proper_iff ⟨"/srv/shop_2"⟩).2.2.1 "shop_2" (by decide +kernel) kept

/-- An underscore at the start of a directory stays at the start of the name. -/
theorem packageName_underscored :
    packageName ⟨"/srv/_scratch"⟩ = "_scratch" ∧ ¬ Proper (packageName ⟨"/srv/_scratch"⟩) := by
  have same : packageName ⟨"/srv/_scratch"⟩ = "_scratch" := by decide +kernel
  refine ⟨same, ?_⟩
  rw [(packageName_tidy _).proper_iff, same]
  decide

end Manifest

end FixGrader
