import FixGrader.Proofs.Disk.Writing
import FixGrader.Proofs.Path.Place
/-!
# Files of one directory

Two names in one directory lead to two places. To write the one file does nothing to the other.
-/
namespace FixGrader

def Path.Plain (name : String) : Prop :=
  '/' ∉ name.toList ∧ '\x00' ∉ name.toList ∧ name.toList ≠ [] ∧ name.toList ≠ ['.'] ∧
    name.toList ≠ ['.', '.'] ∧ name.utf8ByteSize ≤ 255

instance (name : String) : Decidable (Path.Plain name) :=
  inferInstanceAs (Decidable (_ ∧ _))

theorem Path.Plain.relative {name : String} (plain : Plain name) :
    isAbsolute ⟨name⟩ = false := by
  obtain ⟨separate, -, filled, -⟩ := plain
  obtain ⟨c, cs, same⟩ := List.exists_cons_of_ne_nil filled
  have other : c ≠ '/' := by
    rintro rfl
    exact separate (by simp [same])
  simp [isAbsolute, same, other]

namespace Disk

theorem locate_plain (d : Disk) {name : String} (plain : Path.Plain name) :
    d.locate ⟨name⟩ = d.step d.cwd name.toList := by
  obtain ⟨separate, noZero, filled, -⟩ := id plain
  have nonempty : name.isEmpty = false := by
    simpa using filled
  unfold locate
  simp only [List.contains_iff_mem, noZero, nonempty, plain.relative, Path.segments,
    Path.splitSlashes_plain separate, Bool.false_eq_true, if_false, List.foldlM_cons, List.foldlM_nil]
  cases d.step d.cwd name.toList <;> rfl

theorem walk_concat (d : Disk) (parts : List (List Char)) (segment : List Char) (start : Place) :
    (parts ++ [segment]).foldlM d.step start =
      (parts.foldlM d.step start).bind fun place => d.step place segment := by
  rw [List.foldlM_append]
  cases parts.foldlM d.step start with
  | error e => rfl
  | ok place =>
    change (d.step place segment >>= pure) = d.step place segment
    cases d.step place segment <;> rfl

/-- How the path to a name in a directory is followed: first the directory, then the name. -/
theorem locate_join (d : Disk) (root : Path) : ∃ base : Except FileError Place,
    ∀ name, Path.Plain name →
      d.locate (root.join ⟨name⟩) = base.bind fun place => d.step place name.toList := by
  rcases root.join_text with empty | ⟨before, -, text⟩
  · refine ⟨.ok d.cwd, fun name plain => ?_⟩
    rw [Path.join_empty empty plain.relative, locate_plain d plain]
    rfl
  · have joined : ∀ name, Path.Plain name →
        (root.join ⟨name⟩).text.toList = before ++ '/' :: name.toList :=
      fun name plain => text ⟨name⟩ plain.relative
    by_cases zero : '\x00' ∈ before
    · refine ⟨.error .zeroInName, fun name plain => ?_⟩
      unfold locate
      rw [if_pos (by simp [joined name plain, zero])]
      rfl
    · have start : ∀ name, Path.Plain name → (root.join ⟨name⟩).isAbsolute =
          decide ((before ++ ['/']).head? = some '/') := by
        intro name plain
        rw [Path.isAbsolute, joined name plain]
        cases before <;> simp
      refine ⟨(if (before ++ ['/']).head? = some '/' then (Path.splitSlashes before).tail
        else Path.splitSlashes before).foldlM d.step
          (if (before ++ ['/']).head? = some '/' then [] else d.cwd), fun name plain => ?_⟩
      have noZero : ¬ '\x00' ∈ (root.join ⟨name⟩).text.toList := by
        rw [joined name plain]
        simp [zero, plain.2.1]
      have nonempty : (root.join ⟨name⟩).text.isEmpty = false := by
        have filled : (root.join ⟨name⟩).text.toList ≠ [] := by simp [joined name plain]
        simpa using filled
      have parts : (root.join ⟨name⟩).segments = Path.splitSlashes before ++ [name.toList] := by
        rw [Path.segments, joined name plain, Path.splitSlashes_append,
          Path.splitSlashes_plain plain.1]
      unfold locate
      simp only [List.contains_iff_mem, noZero, nonempty, start name plain, parts,
        decide_eq_true_eq, Bool.false_eq_true, if_false]
      split
      · rw [List.tail_append_of_ne_nil (Path.splitSlashes_ne_nil before), walk_concat]
      · rw [walk_concat]

/-- Where one name in a directory leads somewhere, every other one does, to another place. -/
theorem locate_sibling {d : Disk} {root : Path} {a b : String} (plainA : Path.Plain a)
    (plainB : Path.Plain b) {place : Place} (found : d.locate (root.join ⟨a⟩) = .ok place) :
    ∃ base, place = base ++ [a] ∧ d.locate (root.join ⟨b⟩) = .ok (base ++ [b]) := by
  obtain ⟨base, follows⟩ := d.locate_join root
  rw [follows a plainA] at found
  rw [follows b plainB]
  cases base with
  | error e => cases found
  | ok base =>
    refine ⟨base, ?_⟩
    have named : ∀ name, Path.Plain name → ∀ writable, d.entry? base = some (.directory writable) →
        d.step base name.toList = .ok (base ++ [name]) := by
      rintro name ⟨-, -, filled, notHere, notUp, short⟩ writable there
      simp only [step, there, filled, notHere, notUp, or_self, if_false, String.ofList_toList]
      rw [if_neg (by omega)]
    change d.step base a.toList = .ok place at found
    change _ ∧ d.step base b.toList = _
    cases there : d.entry? base with
    | none => simp [step, there] at found
    | some e =>
      cases e with
      | file => simp [step, there] at found
      | directory writable =>
        rw [named a plainA writable there] at found
        cases found
        exact ⟨rfl, named b plainB writable there⟩

/-- A file that is written is beside every other one of its directory, which still lies where it
lay. -/
theorem writeText_sibling_places {d d' : Disk} {root : Path} {a b text : String}
    (plainA : Path.Plain a) (plainB : Path.Plain b)
    (h : d.writeText (root.join ⟨a⟩) text = .ok d') :
    ∃ base, d.locate (root.join ⟨a⟩) = .ok (base ++ [a]) ∧
      d.locate (root.join ⟨b⟩) = .ok (base ++ [b]) ∧
      d'.locate (root.join ⟨b⟩) = .ok (base ++ [b]) := by
  obtain ⟨place, _, _, found, -⟩ := writeBytes_ok h
  obtain ⟨keeps, cwd, -⟩ := writeText_ok h
  obtain ⟨base, rfl, sibling⟩ := locate_sibling plainA plainB found
  exact ⟨base, found, sibling, keeps.locate cwd sibling⟩

/-- To write a file does nothing to another one of the same directory. -/
theorem writeText_sibling_bytes {d d' : Disk} {root : Path} {a b text : String}
    (plainA : Path.Plain a) (plainB : Path.Plain b) (unlike : a ≠ b)
    (h : d.writeText (root.join ⟨a⟩) text = .ok d') :
    d'.readBytes (root.join ⟨b⟩) = d.readBytes (root.join ⟨b⟩) ∧
      d'.exists? (root.join ⟨b⟩) = d.exists? (root.join ⟨b⟩) := by
  obtain ⟨base, found, sibling, sibling'⟩ := writeText_sibling_places plainA plainB h
  obtain ⟨keeps, cwd, place', _, _, found', -, others, -⟩ := writeText_ok h
  rw [keeps.locate cwd found] at found'
  cases found'
  have same := others (base ++ [b]) (by simpa using fun same => unlike same.symm)
  constructor
  · simp only [readBytes, sibling, sibling', bind, Except.bind, same]
  · simp only [exists?, sibling, sibling', same]

theorem writeText_sibling {d d' : Disk} {root : Path} {a b text : String} (plainA : Path.Plain a)
    (plainB : Path.Plain b) (unlike : a ≠ b) (h : d.writeText (root.join ⟨a⟩) text = .ok d') :
    d'.readText (root.join ⟨b⟩) = d.readText (root.join ⟨b⟩) ∧
      d'.exists? (root.join ⟨b⟩) = d.exists? (root.join ⟨b⟩) := by
  obtain ⟨bytes, there⟩ := writeText_sibling_bytes plainA plainB unlike h
  exact ⟨by rw [readText, bytes, readText], there⟩

end Disk

end FixGrader
