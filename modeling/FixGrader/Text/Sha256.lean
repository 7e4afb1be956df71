import FixGrader.Text.Utf8
import FixGrader.Number.Power
/-!
# Digests

The SHA-256 digest of a text, in hexadecimal: the fingerprint of a submission.
-/
namespace FixGrader.Text.Sha256

/-- The first 32 bits of the fractional parts of the cube roots of the first 64 primes. -/
def roundConstants : Array UInt32 := #[
  0x428a2f98, 0x71374491, 0xb5c0fbcf, 0xe9b5dba5, 0x3956c25b, 0x59f111f1, 0x923f82a4, 0xab1c5ed5,
  0xd807aa98, 0x12835b01, 0x243185be, 0x550c7dc3, 0x72be5d74, 0x80deb1fe, 0x9bdc06a7, 0xc19bf174,
  0xe49b69c1, 0xefbe4786, 0x0fc19dc6, 0x240ca1cc, 0x2de92c6f, 0x4a7484aa, 0x5cb0a9dc, 0x76f988da,
  0x983e5152, 0xa831c66d, 0xb00327c8, 0xbf597fc7, 0xc6e00bf3, 0xd5a79147, 0x06ca6351, 0x14292967,
  0x27b70a85, 0x2e1b2138, 0x4d2c6dfc, 0x53380d13, 0x650a7354, 0x766a0abb, 0x81c2c92e, 0x92722c85,
  0xa2bfe8a1, 0xa81a664b, 0xc24b8b70, 0xc76c51a3, 0xd192e819, 0xd6990624, 0xf40e3585, 0x106aa070,
  0x19a4c116, 0x1e376c08, 0x2748774c, 0x34b0bcb5, 0x391c0cb3, 0x4ed8aa4a, 0x5b9cca4f, 0x682e6ff3,
  0x748f82ee, 0x78a5636f, 0x84c87814, 0x8cc70208, 0x90befffa, 0xa4506ceb, 0xbef9a3f7, 0xc67178f2]

/-- The first 32 bits of the fractional parts of the square roots of the first 8 primes. -/
def initialState : Array UInt32 := #[
  0x6a09e667, 0xbb67ae85, 0x3c6ef372, 0xa54ff53a, 0x510e527f, 0x9b05688c, 0x1f83d9ab, 0x5be0cd19]

def rotateRight (x n : UInt32) : UInt32 := (x >>> n) ||| (x <<< (32 - n))

/-- The big-endian bytes of a number, `n` of them. -/
def bigEndian (n value : Nat) : List UInt8 :=
  (List.range n).map fun i => UInt8.ofNat (value / 256 ^ (n - 1 - i) % 256)

/-- The message with its padding: a one bit, zeros, and the length in bits. -/
def padded (message : ByteArray) : Array UInt8 :=
  let zeros := (119 - message.size % 64) % 64
  (message.toList ++ 0x80 :: List.replicate zeros 0 ++ bigEndian 8 (8 * message.size)).toArray

def word (bytes : Array UInt8) (i : Nat) : UInt32 :=
  (List.range 4).foldl (fun w k => (w <<< 8) ||| (bytes.getD (i + k) 0).toUInt32) 0

/-- The sixty-four words that a block of sixteen is extended to. -/
def schedule (bytes : Array UInt8) (offset : Nat) : Array UInt32 :=
  let first := ((List.range 16).map fun i => word bytes (offset + 4 * i)).toArray
  (List.range 48).foldl (fun (w : Array UInt32) k =>
    let past (back : Nat) : UInt32 := w.getD (16 + k - back) 0
    let s0 := rotateRight (past 15) 7 ^^^ rotateRight (past 15) 18 ^^^ (past 15 >>> 3)
    let s1 := rotateRight (past 2) 17 ^^^ rotateRight (past 2) 19 ^^^ (past 2 >>> 10)
    w.push (past 16 + s0 + past 7 + s1)) first

def round (w : Array UInt32) (s : Array UInt32) (i : Nat) : Array UInt32 :=
  let a := s.getD 0 0; let b := s.getD 1 0; let c := s.getD 2 0; let d := s.getD 3 0
  let e := s.getD 4 0; let f := s.getD 5 0; let g := s.getD 6 0; let h := s.getD 7 0
  let s1 := rotateRight e 6 ^^^ rotateRight e 11 ^^^ rotateRight e 25
  let choice := (e &&& f) ^^^ ((~~~ e) &&& g)
  let t1 := h + s1 + choice + roundConstants.getD i 0 + w.getD i 0
  let s0 := rotateRight a 2 ^^^ rotateRight a 13 ^^^ rotateRight a 22
  let majority := (a &&& b) ^^^ (a &&& c) ^^^ (b &&& c)
  #[t1 + s0 + majority, a, b, c, d + t1, e, f, g]

def compress (state : Array UInt32) (bytes : Array UInt8) (offset : Nat) : Array UInt32 :=
  let w := schedule bytes offset
  let out := (List.range 64).foldl (round w) state
  ((List.range 8).map fun i => state.getD i 0 + out.getD i 0).toArray

def hexByte (n : Nat) : String :=
  let digit (k : Nat) : Char := "0123456789abcdef".toList.getD k '0'
  String.ofList [digit (n / 16), digit (n % 16)]

/-- The digest of some bytes, in hexadecimal. -/
def digest (message : ByteArray) : String :=
  let bytes := padded message
  let state :=
    (List.range (bytes.size / 64)).foldl (fun s i => compress s bytes (64 * i)) initialState
  String.join (state.toList.flatMap fun w => (bigEndian 4 w.toNat).map fun b => hexByte b.toNat)

end FixGrader.Text.Sha256
