import Mathlib.Algebra.Order.Ring.Nat

/-!
# SHA-256

The hash on byte strings, with words as numbers below `2 ^ 32`, and its text of
sixty-four hexadecimal digits.
-/

namespace ErpFinance.Library

abbrev Bytes := List UInt8

namespace Sha256

def word (n : Nat) : Nat := n % 2 ^ 32

def rotateRight (count x : Nat) : Nat := word (x >>> count ||| x <<< (32 - count))

/-- The round constants: cube roots of the first sixty-four primes. -/
def roundConstants : List Nat :=
  [0x428a2f98, 0x71374491, 0xb5c0fbcf, 0xe9b5dba5, 0x3956c25b, 0x59f111f1,
   0x923f82a4, 0xab1c5ed5, 0xd807aa98, 0x12835b01, 0x243185be, 0x550c7dc3,
   0x72be5d74, 0x80deb1fe, 0x9bdc06a7, 0xc19bf174, 0xe49b69c1, 0xefbe4786,
   0x0fc19dc6, 0x240ca1cc, 0x2de92c6f, 0x4a7484aa, 0x5cb0a9dc, 0x76f988da,
   0x983e5152, 0xa831c66d, 0xb00327c8, 0xbf597fc7, 0xc6e00bf3, 0xd5a79147,
   0x06ca6351, 0x14292967, 0x27b70a85, 0x2e1b2138, 0x4d2c6dfc, 0x53380d13,
   0x650a7354, 0x766a0abb, 0x81c2c92e, 0x92722c85, 0xa2bfe8a1, 0xa81a664b,
   0xc24b8b70, 0xc76c51a3, 0xd192e819, 0xd6990624, 0xf40e3585, 0x106aa070,
   0x19a4c116, 0x1e376c08, 0x2748774c, 0x34b0bcb5, 0x391c0cb3, 0x4ed8aa4a,
   0x5b9cca4f, 0x682e6ff3, 0x748f82ee, 0x78a5636f, 0x84c87814, 0x8cc70208,
   0x90befffa, 0xa4506ceb, 0xbef9a3f7, 0xc67178f2]

/-- The eight words the compression works on. -/
structure State where
  a : Nat
  b : Nat
  c : Nat
  d : Nat
  e : Nat
  f : Nat
  g : Nat
  h : Nat

/-- Square roots of the first eight primes. -/
def initialState : State :=
  ⟨0x6a09e667, 0xbb67ae85, 0x3c6ef372, 0xa54ff53a, 0x510e527f, 0x9b05688c, 0x1f83d9ab,
    0x5be0cd19⟩

def pad (message : Bytes) : Bytes :=
  let count := message.length
  let bits := count * 8 % 2 ^ 64
  let zeros : Bytes := List.replicate ((119 - count % 64) % 64) 0
  message ++ 0x80 :: zeros ++ (List.range 8).map (fun i => UInt8.ofNat (bits >>> (56 - 8 * i)))

/-- The first words of a byte string, four bytes each. -/
def words : Nat → Bytes → List Nat
  | count + 1, a :: b :: c :: d :: rest =>
    (a.toNat <<< 24 ||| b.toNat <<< 16 ||| c.toNat <<< 8 ||| d.toNat) :: words count rest
  | _, _ => []

/-! ## Compression -/

/-- The message schedule, newest word first. -/
def extend : Nat → List Nat → List Nat
  | 0, schedule => schedule
  | count + 1, schedule =>
    let w15 := schedule.getD 14 0
    let w2 := schedule.getD 1 0
    let s0 := rotateRight 7 w15 ^^^ rotateRight 18 w15 ^^^ w15 >>> 3
    let s1 := rotateRight 17 w2 ^^^ rotateRight 19 w2 ^^^ w2 >>> 10
    extend count (word (schedule.getD 15 0 + s0 + schedule.getD 6 0 + s1) :: schedule)

def round (s : State) (input : Nat × Nat) : State :=
  let s1 := rotateRight 6 s.e ^^^ rotateRight 11 s.e ^^^ rotateRight 25 s.e
  let choice := s.e &&& s.f ^^^ (0xffffffff ^^^ s.e) &&& s.g
  let t1 := s.h + s1 + choice + input.1 + input.2
  let s0 := rotateRight 2 s.a ^^^ rotateRight 13 s.a ^^^ rotateRight 22 s.a
  let majority := s.a &&& s.b ^^^ s.a &&& s.c ^^^ s.b &&& s.c
  ⟨word (t1 + s0 + majority), s.a, s.b, s.c, word (s.d + t1), s.e, s.f, s.g⟩

def compress (s : State) (block : Bytes) : State :=
  let schedule := (extend 48 (words 16 block).reverse).reverse
  let t := (roundConstants.zip schedule).foldl round s
  ⟨word (s.a + t.a), word (s.b + t.b), word (s.c + t.c), word (s.d + t.d), word (s.e + t.e),
    word (s.f + t.f), word (s.g + t.g), word (s.h + t.h)⟩

def digest (message : Bytes) : State :=
  let padded := pad message
  (List.range (padded.length / 64)).foldl
    (fun s i => compress s ((padded.drop (64 * i)).take 64)) initialState

/-! ## Text -/

def hexDigit (n : Nat) : UInt8 :=
  if n < 10 then UInt8.ofNat (48 + n) else UInt8.ofNat (87 + n)

/-- A word as eight hexadecimal digits. -/
def hexWord (w : Nat) : Bytes :=
  (List.range 8).map (fun i => hexDigit (w >>> (28 - 4 * i) % 16))

theorem length_hexWord (w : Nat) : (hexWord w).length = 8 := by
  simp [hexWord]

end Sha256

open Sha256

/-- The digest of a byte string as hexadecimal text. -/
def sha256Hex (message : Bytes) : Bytes :=
  let s := digest message
  hexWord s.a ++ hexWord s.b ++ hexWord s.c ++ hexWord s.d ++ hexWord s.e ++ hexWord s.f ++
    hexWord s.g ++ hexWord s.h

/-- Every digest has sixty-four digits. -/
theorem length_sha256Hex (message : Bytes) : (sha256Hex message).length = 64 := by
  simp only [sha256Hex, List.length_append, length_hexWord]

/-- The digest of the three letters `abc`. -/
example :
    let s := digest [0x61, 0x62, 0x63]
    [s.a, s.b, s.c, s.d, s.e, s.f, s.g, s.h] =
      [0xba7816bf, 0x8f01cfea, 0x414140de, 0x5dae2223, 0xb00361a3, 0x96177a9c, 0xb410ff61,
        0xf20015ad] := by
  decide +kernel

end ErpFinance.Library
