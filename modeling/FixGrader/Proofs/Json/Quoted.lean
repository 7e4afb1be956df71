import FixGrader.Json.Decoder
/-!
# Quoted texts

A text that was quoted is read back as it was, whatever stands behind it.
-/
namespace FixGrader.Json
open Document

theorem readString_escape {acc : List Char} {c e : Char} (cs : List Char) (other : c ≠ 'u')
    (escape : simpleEscape? c = some e) :
    readString? (some acc) none ('\\' :: c :: cs) = readString? (some (e :: acc)) none cs := by
  rw [readString?]
  · simp [escape]
  · simp [other]

theorem readString_hex {a b c d : Char} {n : Nat} (acc cs : List Char)
    (hex : fourHex? a b c d = some n) (small : n < 0x20) :
    readString? (some acc) none ('\\' :: 'u' :: a :: b :: c :: d :: cs) =
      readString? (some (Char.ofNat n :: acc)) none cs := by
  have leading : isLeading n = false := by
    simp [isLeading]
    omega
  have trailing : isTrailing n = false := by
    simp [isTrailing]
    omega
  rw [readString?, hex]
  simp [leading, trailing]

theorem readString_plain {acc : List Char} {c : Char} (cs : List Char) (quote : c ≠ '"')
    (backslash : c ≠ '\\') (large : ¬ c.toNat < 0x20) :
    readString? (some acc) none (c :: cs) = readString? (some (c :: acc)) none cs := by
  rw [readString?]
  · simp [large, backslash]
  · exact quote
  · simp [backslash]
  · simp [backslash]

def hexChar (n : Nat) : Char := "0123456789abcdef".toList.getD n '0'

theorem fourHex_control : ∀ n < 0x20,
    fourHex? '0' '0' (hexChar (n / 16)) (hexChar (n % 16)) = some n := by
  decide

/-- One character is read back, however it was written. -/
theorem readString_escapeChar (acc : List Char) (c : Char) (cs : List Char) :
    readString? (some acc) none ((escapeChar c).toList ++ cs) =
      readString? (some (c :: acc)) none cs := by
  unfold escapeChar
  by_cases quote : c = '"'
  · subst quote
    exact readString_escape cs (by decide) rfl
  by_cases backslash : c = '\\'
  · subst backslash
    exact readString_escape cs (by decide) rfl
  rw [if_neg quote, if_neg backslash]
  by_cases control : c.toNat < 0x20
  · rw [if_pos control]
    by_cases newline : c = '\n'
    · subst newline
      exact readString_escape cs (by decide) rfl
    by_cases tab : c = '\t'
    · subst tab
      exact readString_escape cs (by decide) rfl
    by_cases ret : c = '\r'
    · subst ret
      exact readString_escape cs (by decide) rfl
    rw [if_neg newline, if_neg tab, if_neg ret]
    by_cases back : c.toNat = 8
    · obtain rfl : c = '\x08' := by rw [← Char.ofNat_toNat c, back]
      exact readString_escape cs (by decide) rfl
    by_cases feed : c.toNat = 12
    · obtain rfl : c = '\x0c' := by rw [← Char.ofNat_toNat c, feed]
      exact readString_escape cs (by decide) rfl
    rw [if_neg back, if_neg feed]
    have read := readString_hex acc cs (fourHex_control c.toNat control) control
    rw [Char.ofNat_toNat] at read
    rw [← read]
    simp [hexDigitText, hexChar]
  · rw [if_neg control]
    simpa using readString_plain cs quote backslash control

theorem quote_toList (s : String) :
    (quote s).toList = '"' :: (s.toList.flatMap fun c => (escapeChar c).toList) ++ ['"'] := by
  simp [quote, String.toList_join, List.flatMap_map]

theorem readString_flatMap (acc cs rest : List Char) :
    readString? (some acc) none ((cs.flatMap fun c => (escapeChar c).toList) ++ '"' :: rest) =
      some (some (String.ofList (acc.reverse ++ cs)), rest) := by
  induction cs generalizing acc with
  | nil => simp [readString?]
  | cons c cs ih =>
    rw [List.flatMap_cons, List.append_assoc, readString_escapeChar, ih]
    simp

/-- A quoted text is read back. -/
theorem readString_quote (s : String) (rest : List Char) :
    ∃ behind, (quote s).toList ++ rest = '"' :: behind ∧
      readString? (some []) none behind = some (some s, rest) := by
  refine ⟨(s.toList.flatMap fun c => (escapeChar c).toList) ++ '"' :: rest, ?_, ?_⟩
  · simp [quote_toList]
  · rw [readString_flatMap, List.reverse_nil, List.nil_append, String.ofList_toList]

end FixGrader.Json
