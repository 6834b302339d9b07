import Mathlib.Data.Nat.Notation
import Mathlib.Data.List.Basic
import Mathlib.Tactic.Lemma

/-!
# SHA-256

The digest of a byte string, with bytes and 32-bit words as natural numbers.  It is executable, so
that identifiers which the program derives from content can be computed on concrete inputs.  No
property of the digest is assumed anywhere: where a result needs two digests to differ, it says so.
-/

namespace Aizim.Sha256

/-! ## Words -/

/-- Rotate a 32-bit word to the right. -/
def rotateRight (x k : ℕ) : ℕ := (x >>> k) ||| ((x <<< (32 - k)) % 4294967296)

/-- The bitwise complement of a 32-bit word. -/
def complement (x : ℕ) : ℕ := x ^^^ 0xffffffff

/-- The round constants. -/
def roundConstants : List ℕ :=
  [0x428a2f98, 0x71374491, 0xb5c0fbcf, 0xe9b5dba5, 0x3956c25b, 0x59f111f1, 0x923f82a4, 0xab1c5ed5,
   0xd807aa98, 0x12835b01, 0x243185be, 0x550c7dc3, 0x72be5d74, 0x80deb1fe, 0x9bdc06a7, 0xc19bf174,
   0xe49b69c1, 0xefbe4786, 0x0fc19dc6, 0x240ca1cc, 0x2de92c6f, 0x4a7484aa, 0x5cb0a9dc, 0x76f988da,
   0x983e5152, 0xa831c66d, 0xb00327c8, 0xbf597fc7, 0xc6e00bf3, 0xd5a79147, 0x06ca6351, 0x14292967,
   0x27b70a85, 0x2e1b2138, 0x4d2c6dfc, 0x53380d13, 0x650a7354, 0x766a0abb, 0x81c2c92e, 0x92722c85,
   0xa2bfe8a1, 0xa81a664b, 0xc24b8b70, 0xc76c51a3, 0xd192e819, 0xd6990624, 0xf40e3585, 0x106aa070,
   0x19a4c116, 0x1e376c08, 0x2748774c, 0x34b0bcb5, 0x391c0cb3, 0x4ed8aa4a, 0x5b9cca4f, 0x682e6ff3,
   0x748f82ee, 0x78a5636f, 0x84c87814, 0x8cc70208, 0x90befffa, 0xa4506ceb, 0xbef9a3f7, 0xc67178f2]

/-- The eight chaining words. -/
structure Chaining where
  (a b c d e f g h : ℕ)

/-- The initial chaining words. -/
def initial : Chaining :=
  ⟨0x6a09e667, 0xbb67ae85, 0x3c6ef372, 0xa54ff53a, 0x510e527f, 0x9b05688c, 0x1f83d9ab, 0x5be0cd19⟩

/-! ## Compression -/

/-- Extend the message schedule, kept with the newest word first, by a number of words. -/
def extendSchedule : ℕ → List ℕ → List ℕ
  | 0, ws => ws
  | n + 1, ws =>
    let w15 := ws.getD 14 0
    let w2 := ws.getD 1 0
    let s0 := rotateRight w15 7 ^^^ rotateRight w15 18 ^^^ (w15 >>> 3)
    let s1 := rotateRight w2 17 ^^^ rotateRight w2 19 ^^^ (w2 >>> 10)
    extendSchedule n ((ws.getD 15 0 + s0 + ws.getD 6 0 + s1) % 4294967296 :: ws)

/-- One round. -/
def round (s : Chaining) (kw : ℕ × ℕ) : Chaining :=
  let s1 := rotateRight s.e 6 ^^^ rotateRight s.e 11 ^^^ rotateRight s.e 25
  let choice := (s.e &&& s.f) ^^^ (complement s.e &&& s.g)
  let t1 := s.h + s1 + choice + kw.1 + kw.2
  let s0 := rotateRight s.a 2 ^^^ rotateRight s.a 13 ^^^ rotateRight s.a 22
  let majority := (s.a &&& s.b) ^^^ (s.a &&& s.c) ^^^ (s.b &&& s.c)
  ⟨(t1 + s0 + majority) % 4294967296, s.a, s.b, s.c, (s.d + t1) % 4294967296, s.e, s.f, s.g⟩

/-- The 32-bit words of a row of bytes. -/
def words : List ℕ → List ℕ
  | b0 :: b1 :: b2 :: b3 :: bs => (b0 <<< 24 ||| b1 <<< 16 ||| b2 <<< 8 ||| b3) :: words bs
  | _ => []

/-- Add the compression of one block of 64 bytes to the chaining words. -/
def compress (s : Chaining) (block : List ℕ) : Chaining :=
  let schedule := (extendSchedule 48 (words block).reverse).reverse
  let t := (roundConstants.zip schedule).foldl round s
  ⟨(s.a + t.a) % 4294967296, (s.b + t.b) % 4294967296, (s.c + t.c) % 4294967296,
   (s.d + t.d) % 4294967296, (s.e + t.e) % 4294967296, (s.f + t.f) % 4294967296,
   (s.g + t.g) % 4294967296, (s.h + t.h) % 4294967296⟩

/-! ## Digest -/

/-- The `width` low bytes of a number, most significant first. -/
def bigEndian : (width n : ℕ) → List ℕ
  | 0, _ => []
  | width + 1, n => bigEndian width (n / 256) ++ [n % 256]

/-- The padded message. -/
def pad (bytes : List ℕ) : List ℕ :=
  bytes ++ 0x80 :: List.replicate ((119 - bytes.length % 64) % 64) 0 ++
    bigEndian 8 (8 * bytes.length)

/-- Compress a number of blocks in turn. -/
def compressBlocks : (blocks : ℕ) → Chaining → List ℕ → Chaining
  | 0, s, _ => s
  | n + 1, s, bytes => compressBlocks n (compress s (bytes.take 64)) (bytes.drop 64)

/-- The digest as 32 bytes. -/
def digest (bytes : List ℕ) : List ℕ :=
  let padded := pad bytes
  let s := compressBlocks (padded.length / 64) initial padded
  [s.a, s.b, s.c, s.d, s.e, s.f, s.g, s.h].flatMap (bigEndian 4)

lemma length_bigEndian (width n : ℕ) : (bigEndian width n).length = width := by
  induction width generalizing n with
  | zero => rfl
  | succ width ih => simp [bigEndian, ih]

lemma lt_of_mem_bigEndian {width n b : ℕ} (h : b ∈ bigEndian width n) : b < 256 := by
  induction width generalizing n with
  | zero => simp [bigEndian] at h
  | succ width ih =>
    rw [bigEndian, List.mem_append, List.mem_singleton] at h
    rcases h with h | rfl
    · exact ih h
    · exact Nat.mod_lt n (by omega)

lemma length_digest (bytes : List ℕ) : (digest bytes).length = 32 := by
  simp [digest, length_bigEndian]

lemma lt_of_mem_digest {bytes : List ℕ} {b : ℕ} (h : b ∈ digest bytes) : b < 256 := by
  obtain ⟨word, -, hb⟩ := List.mem_flatMap.1 h
  exact lt_of_mem_bigEndian hb

/-- A byte as two lowercase hexadecimal digits. -/
def hexByte (n : ℕ) : List Char := [Nat.digitChar (n / 16), Nat.digitChar (n % 16)]

/-- `sha256(value).hexdigest()` -/
def hexdigest (bytes : List ℕ) : String := String.ofList ((digest bytes).flatMap hexByte)

example : hexdigest [97, 98, 99] =
    "ba7816bf8f01cfea414140de5dae2223b00361a396177a9cb410ff61f20015ad" := by
  decide +kernel

end Aizim.Sha256
