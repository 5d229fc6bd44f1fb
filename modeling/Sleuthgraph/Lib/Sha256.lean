import Mathlib.Algebra.Ring.Nat
import Mathlib.Tactic.Common

/-!
# SHA-256

The hash function on lists of bytes. The constants are computed from their definition: the
first 32 bits of the fractional parts of the square and cube roots of the first primes.
-/

namespace Sha256

/-- The integer `k`-th root of `n`, for a root of at most `bits` bits. -/
def iroot (k n bits : ℕ) : ℕ :=
  (List.range bits).foldr (fun i r => if (r + 2 ^ i) ^ k ≤ n then r + 2 ^ i else r) 0

/-- The first 64 primes. -/
def primes : List ℕ :=
  [2, 3, 5, 7, 11, 13, 17, 19, 23, 29, 31, 37, 41, 43, 47, 53,
    59, 61, 67, 71, 73, 79, 83, 89, 97, 101, 103, 107, 109, 113, 127, 131,
    137, 139, 149, 151, 157, 163, 167, 173, 179, 181, 191, 193, 197, 199, 211, 223,
    227, 229, 233, 239, 241, 251, 257, 263, 269, 271, 277, 281, 283, 293, 307, 311]

/-- The constant of each round. -/
def roundConstants : List UInt32 :=
  primes.map fun p => UInt32.ofNat (iroot 3 (p * 2 ^ 96) 36)

/-- The eight working variables. -/
structure State where
  (a b c d e f g h : UInt32)

def State.words (s : State) : List UInt32 := [s.a, s.b, s.c, s.d, s.e, s.f, s.g, s.h]

def State.add (s t : State) : State :=
  ⟨s.a + t.a, s.b + t.b, s.c + t.c, s.d + t.d, s.e + t.e, s.f + t.f, s.g + t.g, s.h + t.h⟩

def initial : State :=
  let word (p : ℕ) := UInt32.ofNat (iroot 2 (p * 2 ^ 64) 36)
  ⟨word 2, word 3, word 5, word 7, word 11, word 13, word 17, word 19⟩

def rotr (x : UInt32) (n : ℕ) : UInt32 :=
  (x >>> UInt32.ofNat n) ||| (x <<< UInt32.ofNat (32 - n))

/-- The last `n` bytes of `x`, most significant first. -/
def bigEndian (n x : ℕ) : List UInt8 :=
  (List.range n).map fun i => UInt8.ofNat (x / 256 ^ (n - 1 - i))

/-- The message with its padding: a one bit, zeros, and the length in bits. -/
def pad (data : List UInt8) : List UInt8 :=
  data ++ 0x80 :: List.replicate ((119 - data.length % 64) % 64) 0
    ++ bigEndian 8 (8 * data.length)

/-- The 32-bit words of a block. -/
def toWords : List UInt8 → List UInt32
  | w :: x :: y :: z :: rest =>
    ((w.toUInt32 <<< 24) ||| (x.toUInt32 <<< 16) ||| (y.toUInt32 <<< 8) ||| z.toUInt32)
      :: toWords rest
  | _ => []

/-- The next word of the schedule, from the words so far, latest first. -/
def nextWord (ws : List UInt32) : UInt32 :=
  let x := ws.getD 14 0
  let y := ws.getD 1 0
  (rotr y 17 ^^^ rotr y 19 ^^^ (y >>> 10)) + ws.getD 6 0
    + (rotr x 7 ^^^ rotr x 18 ^^^ (x >>> 3)) + ws.getD 15 0

/-- The 64 words of a block's schedule. -/
def schedule (block : List UInt32) : List UInt32 :=
  ((List.range 48).foldl (fun ws _ => nextWord ws :: ws) block.reverse).reverse

/-- One round. -/
def round (s : State) (kw : UInt32 × UInt32) : State :=
  let t₁ := s.h + (rotr s.e 6 ^^^ rotr s.e 11 ^^^ rotr s.e 25)
    + ((s.e &&& s.f) ^^^ (~~~s.e &&& s.g)) + kw.1 + kw.2
  let t₂ := (rotr s.a 2 ^^^ rotr s.a 13 ^^^ rotr s.a 22)
    + ((s.a &&& s.b) ^^^ (s.a &&& s.c) ^^^ (s.b &&& s.c))
  ⟨t₁ + t₂, s.a, s.b, s.c, s.d + t₁, s.e, s.f, s.g⟩

def compress (s : State) (block : List UInt32) : State :=
  s.add ((roundConstants.zip (schedule block)).foldl round s)

/-- The first `n` blocks of 16 words. -/
def blocks : ℕ → List UInt32 → List (List UInt32)
  | 0, _ => []
  | n + 1, ws => ws.take 16 :: blocks n (ws.drop 16)

/-- The digest as eight words. -/
@[irreducible] def digest (data : List UInt8) : List UInt32 :=
  let message := pad data
  ((blocks (message.length / 64) (toWords message)).foldl compress initial).words

@[simp] theorem length_digest (data : List UInt8) : (digest data).length = 8 := by
  unfold digest
  rfl

-- the digest of the text "abc"
example : digest [97, 98, 99] =
    [0xba7816bf, 0x8f01cfea, 0x414140de, 0x5dae2223,
      0xb00361a3, 0x96177a9c, 0xb410ff61, 0xf20015ad] := by decide +kernel

end Sha256
