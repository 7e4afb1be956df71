import FixGrader.Disk
/-!
# Writing files

What a file that is written changes, and what it leaves as it was.
-/
namespace FixGrader

theorem Text.ofBytes_toBytes (s : String) : Text.ofBytes? (Text.toBytes s) = some s := by
  have valid : (Text.toBytes s).IsValidUTF8 := s.isValidUTF8
  simp only [Text.ofBytes?, String.fromUTF8?, dif_pos valid]
  rfl

theorem Text.ofBytes?_eq_some_iff {bytes : ByteArray} {text : String} :
    Text.ofBytes? bytes = some text ↔ bytes = Text.toBytes text := by
  constructor
  · intro read
    simp only [Text.ofBytes?, String.fromUTF8?] at read
    split at read
    · cases read
      rfl
    · cases read
  · rintro rfl
    exact Text.ofBytes_toBytes text

namespace Disk

theorem find_put (place : Place) (e : Entry) (q : Place) (entries : List (Place × Entry)) :
    (setEntry.put place e entries).find? (·.1 = q) =
      if q = place then some (place, e) else entries.find? (·.1 = q) := by
  induction entries with
  | nil => by_cases h : q = place <;> simp [setEntry.put, h, eq_comm]
  | cons entry rest ih =>
    obtain ⟨p, f⟩ := entry
    by_cases hp : p = place
    · subst hp
      by_cases h : q = p
      · simp [setEntry.put, h]
      · simp [setEntry.put, h, Ne.symm h]
    · by_cases h : p = q
      · subst h
        simp [setEntry.put, hp]
      · simpa [setEntry.put, hp, h] using ih

/-- The root is a directory: what is none lies below it. -/
theorem below_root_of_entry {d : Disk} {place : Place}
    (h : ∀ writable, d.entry? place ≠ some (.directory writable)) : place ≠ [] := by
  rintro rfl
  exact h true (by simp [ entry?])

theorem entry_setEntry_self (d : Disk) {place : Place} (e : Entry) (below : place ≠ []) :
    Disk.entry? (d.setEntry place e) place = some e := by
  simp [ entry?, setEntry, find_put, below]

theorem entry_setEntry_of_ne (d : Disk) {place q : Place} (e : Entry) (h : q ≠ place) :
    Disk.entry? (d.setEntry place e) q = d.entry? q := by
  simp [ entry?, setEntry, find_put, h]

def KeepsDirectories (d d' : Disk) : Prop :=
  ∀ place writable, d.entry? place = some (.directory writable) →
    d'.entry? place = some (.directory writable)

theorem KeepsDirectories.step {d d' : Disk} (keeps : KeepsDirectories d d') {place q : Place}
    {segment : List Char} (h : d.step place segment = .ok q) : d'.step place segment = .ok q := by
  unfold Disk.step at h ⊢
  split at h
  · cases h
  · cases h
  · rename_i writable found
    rw [keeps place writable found]
    exact h

theorem KeepsDirectories.walk {d d' : Disk} (keeps : KeepsDirectories d d') {place q : Place}
    {segments : List (List Char)} (h : segments.foldlM d.step place = .ok q) :
    segments.foldlM d'.step place = .ok q := by
  induction segments generalizing place with
  | nil => exact h
  | cons segment rest ih =>
    rw [List.foldlM_cons] at h ⊢
    cases first : d.step place segment with
    | error e => rw [first] at h; cases h
    | ok next =>
      rw [first] at h
      rw [keeps.step first]
      exact ih h

/-- A path that leads somewhere still leads there when files have come. -/
theorem KeepsDirectories.locate {d d' : Disk} (keeps : KeepsDirectories d d') (cwd : d'.cwd = d.cwd)
    {p : Path} {place : Place} (h : d.locate p = .ok place) : d'.locate p = .ok place := by
  unfold Disk.locate at h ⊢
  rw [cwd]
  split at h
  · cases h
  · rename_i noZero
    rw [if_neg noZero]
    split at h
    · cases h
    · rename_i nonempty
      rw [if_neg nonempty]
      exact keeps.walk h

theorem keepsDirectories_setEntry {d : Disk} (place : Place) (e : Entry)
    (h : ∀ writable, d.entry? place ≠ some (.directory writable)) :
    KeepsDirectories d (d.setEntry place e) := by
  intro q writable hq
  rw [entry_setEntry_of_ne d e (by rintro rfl; exact h writable hq)]
  exact hq

theorem locateNew_ok {d : Disk} {p : Path} {place : Place} (h : d.locateNew p = .ok place) :
    d.locate p = .ok place := by
  unfold locateNew at h
  split at h
  · dsimp only at h
    split at h <;> cases h
  · exact h

/-- What a write that succeeds does: it puts a file where a writable one was, or where there was
nothing in a directory that may be written to. -/
theorem writeBytes_ok {d d' : Disk} {p : Path} {bytes : ByteArray}
    (h : d.writeBytes p bytes = .ok d') :
    ∃ place readable executable, d.locate p = .ok place ∧
      d' = d.setEntry place (.file bytes readable true executable) ∧
      ((∃ old, d.entry? place = some (.file old readable true executable)) ∨
        (d.entry? place = none ∧ d.entry? place.dropLast = some (.directory true) ∧
          readable = true ∧ executable = false)) := by
  cases found : d.locateNew p with
  | error e => simp [writeBytes, found, bind, Except.bind] at h
  | ok place =>
    have located := locateNew_ok found
    simp only [writeBytes, found, bind, Except.bind] at h
    split at h
    · cases h
    · rename_i old readable writable executable entry
      cases writable with
      | false => cases h
      | true =>
        injection h with h
        exact ⟨place, readable, executable, located, h.symm, Or.inl ⟨old, entry⟩⟩
    · rename_i entry
      split at h
      · rename_i parent
        injection h with h
        exact ⟨place, true, false, located, h.symm, Or.inr ⟨entry, parent, rfl, rfl⟩⟩
      · cases h

theorem exists_iff {d : Disk} {p : Path} :
    d.exists? p = true ↔ ∃ place e, d.locate p = .ok place ∧ d.entry? place = some e := by
  unfold exists?
  cases d.locate p with
  | error e => simp
  | ok place => simp [Option.isSome_iff_exists]

/-- After a write there is a file at the path: a new one is readable, another one is as readable as
it was. -/
theorem writeText_ok {d d' : Disk} {p : Path} {text : String} (h : d.writeText p text = .ok d') :
    KeepsDirectories d d' ∧ d'.cwd = d.cwd ∧
      ∃ place readable executable, d'.locate p = .ok place ∧
        d'.entry? place = some (.file (Text.toBytes text) readable true executable) ∧
        (∀ q, q ≠ place → d'.entry? q = d.entry? q) ∧
        (readable = false → ∃ old x, d.locate p = .ok place ∧
          d.entry? place = some (.file old false true x)) := by
  obtain ⟨place, readable, executable, found, rfl, before⟩ := writeBytes_ok h
  have noDirectory : ∀ writable, d.entry? place ≠ some (.directory writable) := by
    rcases before with ⟨old, entry⟩ | ⟨entry, -⟩ <;> simp [entry]
  have keeps := keepsDirectories_setEntry place
    (.file (Text.toBytes text) readable true executable) noDirectory
  refine ⟨keeps, rfl, place, readable, executable, keeps.locate rfl found,
    entry_setEntry_self d _ (below_root_of_entry noDirectory),
    fun q hq => entry_setEntry_of_ne d _ hq, ?_⟩
  rintro rfl
  rcases before with ⟨old, entry⟩ | ⟨-, -, readable, -⟩
  · exact ⟨old, executable, found, entry⟩
  · cases readable

/-- A write leaves every place alone but the one that its path leads to. -/
theorem writeText_others {d d' : Disk} {p : Path} {text : String} (h : d.writeText p text = .ok d') :
    d'.cwd = d.cwd ∧ ∀ place, d.locate p ≠ .ok place → d'.entry? place = d.entry? place := by
  obtain ⟨place, _, _, found, rfl, -⟩ := writeBytes_ok h
  refine ⟨rfl, fun q elsewhere => entry_setEntry_of_ne d _ ?_⟩
  rintro rfl
  exact elsewhere found

/-- A file that was not there before is made, readable and not executable. -/
theorem writeText_new {d d' : Disk} {p : Path} {text : String} (h : d.writeText p text = .ok d')
    (absent : d.exists? p = false) :
    ∃ place, d.locate p = .ok place ∧ d.entry? place = none ∧
      d'.entry? place = some (.file (Text.toBytes text) true true false) := by
  obtain ⟨place, _, _, found, rfl, ⟨old, entry⟩ | ⟨entry, -, rfl, rfl⟩⟩ := writeBytes_ok h
  · rw [exists_iff.mpr ⟨place, _, found, entry⟩] at absent
    cases absent
  · have below : place ≠ [] := below_root_of_entry (d := d) (by simp [entry])
    exact ⟨place, found, entry, entry_setEntry_self d _ below⟩

theorem exists_of_writeText {d d' : Disk} {p : Path} {text : String}
    (h : d.writeText p text = .ok d') : d'.exists? p = true := by
  obtain ⟨_, _, place, _, _, found, entry, _⟩ := writeText_ok h
  exact exists_iff.mpr ⟨place, _, found, entry⟩

/-- A write takes no file away. -/
theorem exists_writeText {d d' : Disk} {p q : Path} {text : String}
    (h : d.writeText p text = .ok d') (there : d.exists? q = true) : d'.exists? q = true := by
  obtain ⟨keeps, cwd, place, _, _, _, entry, others, _⟩ := writeText_ok h
  obtain ⟨place', e, found', entry'⟩ := exists_iff.mp there
  refine exists_iff.mpr ⟨place', ?_⟩
  by_cases same : place' = place
  · subst same
    exact ⟨_, keeps.locate cwd found', entry⟩
  · exact ⟨e, keeps.locate cwd found', (others place' same).trans entry'⟩

theorem readText_file {d : Disk} {p : Path} {place : Place} {text : String}
    {writable executable : Bool} (found : d.locate p = .ok place)
    (entry : d.entry? place = some (.file (Text.toBytes text) true writable executable)) :
    d.readText p = .ok text := by
  simp [readText, readBytes, found, entry, Text.ofBytes_toBytes, bind, Except.bind, pure,
    Except.pure]

theorem readText_unreadable {d : Disk} {p : Path} {place : Place} {bytes : ByteArray}
    {writable executable : Bool} (found : d.locate p = .ok place)
    (entry : d.entry? place = some (.file bytes false writable executable)) :
    d.readText p = .error .permissionDenied := by
  simp [readText, readBytes, found, entry, bind, Except.bind, throw, throwThe, MonadExceptOf.throw]

/-- The text of a file that was written is read back, if the file was new or could be read. -/
theorem readText_writeText {d d' : Disk} {p : Path} {text : String}
    (h : d.writeText p text = .ok d')
    (readable : d.exists? p = true → ∃ old, d.readText p = .ok old) :
    d'.readText p = .ok text := by
  obtain ⟨_, _, place, canRead, executable, found, entry, _, before⟩ := writeText_ok h
  cases canRead with
  | true => exact readText_file found entry
  | false =>
    obtain ⟨old, x, found', entry'⟩ := before rfl
    obtain ⟨text', read⟩ := readable (exists_iff.mpr ⟨place, _, found', entry'⟩)
    rw [readText_unreadable found' entry'] at read
    cases read

end Disk
end FixGrader
