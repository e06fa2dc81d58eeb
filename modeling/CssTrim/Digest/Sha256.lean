import CssTrim.Text.Quoted

/-!
# SHA-256

The message is padded to a whole number of blocks of sixteen words.  Every block
is compressed into a state of eight words, and the last state is the digest.
-/

namespace CssTrim.Digest.Sha256

/-- The eight words that blocks are compressed into. -/
structure State where
  a : UInt32
  b : UInt32
  c : UInt32
  d : UInt32
  e : UInt32
  f : UInt32
  g : UInt32
  h : UInt32

/-- The first state: the fractional parts of the square roots of the first eight primes. -/
def initial : State :=
  ⟨0x6a09e667, 0xbb67ae85, 0x3c6ef372, 0xa54ff53a, 0x510e527f, 0x9b05688c, 0x1f83d9ab, 0x5be0cd19⟩

/-- The constants of the rounds: the fractional parts of the cube roots of the first 64 primes. -/
def roundConstants : List UInt32 :=
  [0x428a2f98, 0x71374491, 0xb5c0fbcf, 0xe9b5dba5, 0x3956c25b, 0x59f111f1, 0x923f82a4, 0xab1c5ed5,
    0xd807aa98, 0x12835b01, 0x243185be, 0x550c7dc3, 0x72be5d74, 0x80deb1fe, 0x9bdc06a7, 0xc19bf174,
    0xe49b69c1, 0xefbe4786, 0x0fc19dc6, 0x240ca1cc, 0x2de92c6f, 0x4a7484aa, 0x5cb0a9dc, 0x76f988da,
    0x983e5152, 0xa831c66d, 0xb00327c8, 0xbf597fc7, 0xc6e00bf3, 0xd5a79147, 0x06ca6351, 0x14292967,
    0x27b70a85, 0x2e1b2138, 0x4d2c6dfc, 0x53380d13, 0x650a7354, 0x766a0abb, 0x81c2c92e, 0x92722c85,
    0xa2bfe8a1, 0xa81a664b, 0xc24b8b70, 0xc76c51a3, 0xd192e819, 0xd6990624, 0xf40e3585, 0x106aa070,
    0x19a4c116, 0x1e376c08, 0x2748774c, 0x34b0bcb5, 0x391c0cb3, 0x4ed8aa4a, 0x5b9cca4f, 0x682e6ff3,
    0x748f82ee, 0x78a5636f, 0x84c87814, 0x8cc70208, 0x90befffa, 0xa4506ceb, 0xbef9a3f7, 0xc67178f2]

/-- A word turned to the right. -/
def rotate (n w : UInt32) : UInt32 := (w >>> n) ||| (w <<< (32 - n))

/-! ## Words of a message -/

/-- A number as octets, the highest first. -/
def bigEndian : Nat → Nat → List UInt8
  | 0, _ => []
  | size + 1, n => bigEndian size (n / 256) ++ [UInt8.ofNat n]

/-- The octets of a message with its padding: a one bit, zeros, and the length in bits. -/
def pad (message : List UInt8) : List UInt8 :=
  let zeros := (119 - message.length % 64) % 64
  message ++ 0x80 :: List.replicate zeros 0 ++ bigEndian 8 (8 * message.length)

/-- Four octets as a word, the highest first. -/
def word (p q r s : UInt8) : UInt32 :=
  p.toUInt32 <<< 24 ||| q.toUInt32 <<< 16 ||| r.toUInt32 <<< 8 ||| s.toUInt32

/-- The words of a sequence of octets. -/
def wordsOf : List UInt8 → List UInt32
  | p :: q :: r :: s :: rest => word p q r s :: wordsOf rest
  | _ => []

/-- The blocks of sixteen words. -/
def blocksOf : List UInt32 → List (List UInt32)
  | a :: b :: c :: d :: e :: f :: g :: h :: i :: j :: k :: l :: m :: n :: o :: p :: rest =>
    [a, b, c, d, e, f, g, h, i, j, k, l, m, n, o, p] :: blocksOf rest
  | _ => []

/-! ## Compression -/

/-- The next word of a schedule whose words are given last first. -/
def nextWord (past : List UInt32) : UInt32 :=
  let ago (i : Nat) := past.getD i 0
  let s0 := rotate 7 (ago 14) ^^^ rotate 18 (ago 14) ^^^ (ago 14 >>> 3)
  let s1 := rotate 17 (ago 1) ^^^ rotate 19 (ago 1) ^^^ (ago 1 >>> 10)
  ago 15 + s0 + ago 6 + s1

/-- Adds words to a schedule whose words are given last first. -/
def extend : Nat → List UInt32 → List UInt32
  | 0, past => past
  | n + 1, past => extend n (nextWord past :: past)

/-- The schedule of a block: its own words and 48 more. -/
def schedule (block : List UInt32) : List UInt32 := (extend 48 block.reverse).reverse

/-- One round with a constant and a word of the schedule. -/
def round (s : State) (kw : UInt32 × UInt32) : State :=
  let s1 := rotate 6 s.e ^^^ rotate 11 s.e ^^^ rotate 25 s.e
  let choice := (s.e &&& s.f) ^^^ (~~~s.e &&& s.g)
  let t1 := s.h + s1 + choice + kw.1 + kw.2
  let s0 := rotate 2 s.a ^^^ rotate 13 s.a ^^^ rotate 22 s.a
  let majority := (s.a &&& s.b) ^^^ (s.a &&& s.c) ^^^ (s.b &&& s.c)
  ⟨t1 + (s0 + majority), s.a, s.b, s.c, s.d + t1, s.e, s.f, s.g⟩

/-- The sum of two states, word by word. -/
def State.add (s t : State) : State :=
  ⟨s.a + t.a, s.b + t.b, s.c + t.c, s.d + t.d, s.e + t.e, s.f + t.f, s.g + t.g, s.h + t.h⟩

/-- Compresses a block into a state. -/
def compress (s : State) (block : List UInt32) : State :=
  s.add ((roundConstants.zip (schedule block)).foldl round s)

/-! ## The digest -/

/-- The words of a state. -/
def State.words (s : State) : List UInt32 := [s.a, s.b, s.c, s.d, s.e, s.f, s.g, s.h]

/-- The last state of a message. -/
def digest (message : List UInt8) : State :=
  (blocksOf (wordsOf (pad message))).foldl compress initial

/-- The digest of a message in hexadecimal digits. -/
def hex (message : List UInt8) : Text :=
  (digest message).words.flatMap fun w => Text.hexDigits 8 w.toNat

end CssTrim.Digest.Sha256
