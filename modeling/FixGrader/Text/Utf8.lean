/-!
# Text in bytes

Files and pipes hold bytes. A file is read as text only if all of its bytes are valid UTF-8; the
output of a tool is always read, each malformed sequence becoming one replacement character.
-/
namespace FixGrader.Text

def replacement : Char := '\uFFFD'

/-- The admissible second bytes after a lead byte of a sequence of three or four. -/
def secondBytes (lead : Nat) : Nat × Nat :=
  if lead == 0xe0 then (0xa0, 0xbf)
  else if lead == 0xed then (0x80, 0x9f)
  else if lead == 0xf0 then (0x90, 0xbf)
  else if lead == 0xf4 then (0x80, 0x8f)
  else (0x80, 0xbf)

/-- How many continuation bytes follow a lead byte; `none` for a byte that cannot lead. -/
def continuationCount (lead : Nat) : Option Nat :=
  if lead < 0x80 then some 0
  else if 0xc2 ≤ lead ∧ lead ≤ 0xdf then some 1
  else if 0xe0 ≤ lead ∧ lead ≤ 0xef then some 2
  else if 0xf0 ≤ lead ∧ lead ≤ 0xf4 then some 3
  else none

/-- The bits that a lead byte contributes. -/
def leadBits (lead : Nat) : Nat :=
  if lead < 0x80 then lead
  else if lead < 0xe0 then lead - 0xc0
  else if lead < 0xf0 then lead - 0xe0
  else lead - 0xf0

/-- The state of a decoder: the text so far (last character first) and the sequence under way, as
the number of bytes it still needs, the bits so far and the admissible next bytes. -/
structure Decoder where
  text : List Char := []
  pending : Option (Nat × Nat × Nat × Nat) := none

namespace Decoder

def start (d : Decoder) (b : Nat) : Decoder :=
  match continuationCount b with
  | none => { d with text := replacement :: d.text, pending := none }
  | some 0 => { d with text := Char.ofNat b :: d.text, pending := none }
  | some n =>
    let (lo, hi) := secondBytes b
    { d with pending := some (n, leadBits b, lo, hi) }

def push (d : Decoder) (b : Nat) : Decoder :=
  match d.pending with
  | none => d.start b
  | some (n, bits, lo, hi) =>
    if lo ≤ b ∧ b ≤ hi then
      let bits := bits * 64 + (b - 0x80)
      if n = 1 then { text := Char.ofNat bits :: d.text, pending := none }
      else { d with pending := some (n - 1, bits, 0x80, 0xbf) }
    else ({ text := replacement :: d.text, pending := none } : Decoder).start b

def finish (d : Decoder) : List Char :=
  match d.pending with
  | none => d.text.reverse
  | some _ => (replacement :: d.text).reverse

end Decoder

/-- The text of some bytes; every malformed sequence becomes one replacement character. -/
def ofBytesLossy (bytes : ByteArray) : String :=
  String.ofList (bytes.toList.foldl (fun d b => d.push b.toNat) ({} : Decoder)).finish

/-- The text of some bytes, if they are all valid. -/
def ofBytes? (bytes : ByteArray) : Option String := String.fromUTF8? bytes

def toBytes (s : String) : ByteArray := s.toUTF8

end FixGrader.Text
