import BearerAuth.Signature.Number

/-!
# The SHA-2 digests

SHA-256, SHA-384 and SHA-512 share one construction and differ in word size, constants, rotation
amounts, initial state and digest length. A `Sha2` record holds these; words are natural numbers
below `2 ^ bits`.
-/

namespace BearerAuth.Signature

/-- The parameters of a SHA-2 digest. -/
structure Sha2 where
  /-- Bits of a word: 32 or 64. -/
  bits : Nat
  /-- One constant for each round. -/
  constants : List Nat
  /-- The initial state, eight words. -/
  initial : List Nat
  /-- Rotations of the two functions of the rounds. -/
  roundRotations : (Nat × Nat × Nat) × (Nat × Nat × Nat)
  /-- Two rotations and a shift for each of the two functions of the message schedule. -/
  scheduleRotations : (Nat × Nat × Nat) × (Nat × Nat × Nat)
  /-- Bytes of the digest. -/
  size : Nat

namespace Sha2

/-- Bytes of a block: sixteen words. -/
def blockSize (v : Sha2) : Nat :=
  2 * v.bits

def add (v : Sha2) (a b : Nat) : Nat :=
  (a + b) % Nat.pow 2 v.bits

/-- Rotation of a word to the right. -/
def rotate (v : Sha2) (n k : Nat) : Nat :=
  (n >>> k) ||| (n <<< (v.bits - k) % Nat.pow 2 v.bits)

/-- Exclusive or of three rotations. -/
def mixRound (v : Sha2) (r : Nat × Nat × Nat) (n : Nat) : Nat :=
  v.rotate n r.1 ^^^ v.rotate n r.2.1 ^^^ v.rotate n r.2.2

/-- Exclusive or of two rotations and a shift. -/
def mixSchedule (v : Sha2) (r : Nat × Nat × Nat) (n : Nat) : Nat :=
  v.rotate n r.1 ^^^ v.rotate n r.2.1 ^^^ (n >>> r.2.2)

/-! ## Padding and blocks -/

/-- The message followed by a one bit, zeros and its length in bits, up to a whole number of
blocks. -/
def padded (v : Sha2) (message : List UInt8) : List UInt8 :=
  let lengthSize := v.bits / 4
  let used := message.length + 1 + lengthSize
  let zeros := (v.blockSize - used % v.blockSize) % v.blockSize
  message ++ 0x80 :: List.replicate zeros 0 ++ toBytes lengthSize (message.length * 8)

/-- Cuts a list into `count` parts of `size` elements. -/
def chunks {α : Type} (size : Nat) : Nat → List α → List (List α)
  | 0, _ => []
  | count + 1, xs => xs.take size :: chunks size count (xs.drop size)

def blockWords (v : Sha2) (block : List UInt8) : List Nat :=
  (chunks (v.bits / 8) 16 block).map ofBytes

/-- Adds the given number of words to a schedule kept with the newest word first. -/
def extend (v : Sha2) : Nat → List Nat → List Nat
  | 0, ws => ws
  | count + 1, ws =>
    let w :=
      v.mixSchedule v.scheduleRotations.2 (ws.getD 1 0) + ws.getD 6 0 +
        v.mixSchedule v.scheduleRotations.1 (ws.getD 14 0) + ws.getD 15 0
    extend v count (w % Nat.pow 2 v.bits :: ws)

/-- The schedule of a block: one word for each round. -/
def schedule (v : Sha2) (block : List UInt8) : List Nat :=
  (extend v (v.constants.length - 16) (v.blockWords block).reverse).reverse

/-! ## Compression -/

structure State where
  a : Nat
  b : Nat
  c : Nat
  d : Nat
  e : Nat
  f : Nat
  g : Nat
  h : Nat

/-- The state with the given words; missing words are zero. -/
def State.ofWords (ws : List Nat) : State :=
  ⟨ws.getD 0 0, ws.getD 1 0, ws.getD 2 0, ws.getD 3 0, ws.getD 4 0, ws.getD 5 0, ws.getD 6 0,
    ws.getD 7 0⟩

def State.words (s : State) : List Nat :=
  [s.a, s.b, s.c, s.d, s.e, s.f, s.g, s.h]

/-- One round with a constant and a word of the schedule. -/
def round (v : Sha2) (s : State) (kw : Nat × Nat) : State :=
  let choose := (s.e &&& s.f) ^^^ ((Nat.pow 2 v.bits - 1 - s.e) &&& s.g)
  let majority := (s.a &&& s.b) ^^^ (s.a &&& s.c) ^^^ (s.b &&& s.c)
  let t1 := s.h + v.mixRound v.roundRotations.2 s.e + choose + kw.1 + kw.2
  let t2 := v.mixRound v.roundRotations.1 s.a + majority
  ⟨v.add t1 t2, s.a, s.b, s.c, v.add s.d t1, s.e, s.f, s.g⟩

/-- The chaining state after one more block. -/
def compress (v : Sha2) (state : List Nat) (block : List UInt8) : List Nat :=
  let final := (v.constants.zip (v.schedule block)).foldl v.round (State.ofWords state)
  List.zipWith v.add state final.words

def digest (v : Sha2) (message : List UInt8) : List UInt8 :=
  let padded := v.padded message
  let blocks := chunks v.blockSize (padded.length / v.blockSize) padded
  let final := blocks.foldl v.compress v.initial
  (final.flatMap (toBytes (v.bits / 8))).take v.size

end Sha2

/-! ## The three digests -/

/-- First 32 bits of the fractional parts of the cube roots of the first 64 primes. -/
def roundConstants32 : List Nat :=
  [0x428a2f98, 0x71374491, 0xb5c0fbcf, 0xe9b5dba5, 0x3956c25b, 0x59f111f1, 0x923f82a4,
   0xab1c5ed5, 0xd807aa98, 0x12835b01, 0x243185be, 0x550c7dc3, 0x72be5d74, 0x80deb1fe,
   0x9bdc06a7, 0xc19bf174, 0xe49b69c1, 0xefbe4786, 0x0fc19dc6, 0x240ca1cc, 0x2de92c6f,
   0x4a7484aa, 0x5cb0a9dc, 0x76f988da, 0x983e5152, 0xa831c66d, 0xb00327c8, 0xbf597fc7,
   0xc6e00bf3, 0xd5a79147, 0x06ca6351, 0x14292967, 0x27b70a85, 0x2e1b2138, 0x4d2c6dfc,
   0x53380d13, 0x650a7354, 0x766a0abb, 0x81c2c92e, 0x92722c85, 0xa2bfe8a1, 0xa81a664b,
   0xc24b8b70, 0xc76c51a3, 0xd192e819, 0xd6990624, 0xf40e3585, 0x106aa070, 0x19a4c116,
   0x1e376c08, 0x2748774c, 0x34b0bcb5, 0x391c0cb3, 0x4ed8aa4a, 0x5b9cca4f, 0x682e6ff3,
   0x748f82ee, 0x78a5636f, 0x84c87814, 0x8cc70208, 0x90befffa, 0xa4506ceb, 0xbef9a3f7, 0xc67178f2]

/-- First 64 bits of the fractional parts of the cube roots of the first 80 primes. -/
def roundConstants64 : List Nat :=
  [0x428a2f98d728ae22, 0x7137449123ef65cd, 0xb5c0fbcfec4d3b2f, 0xe9b5dba58189dbbc,
   0x3956c25bf348b538, 0x59f111f1b605d019, 0x923f82a4af194f9b, 0xab1c5ed5da6d8118,
   0xd807aa98a3030242, 0x12835b0145706fbe, 0x243185be4ee4b28c, 0x550c7dc3d5ffb4e2,
   0x72be5d74f27b896f, 0x80deb1fe3b1696b1, 0x9bdc06a725c71235, 0xc19bf174cf692694,
   0xe49b69c19ef14ad2, 0xefbe4786384f25e3, 0x0fc19dc68b8cd5b5, 0x240ca1cc77ac9c65,
   0x2de92c6f592b0275, 0x4a7484aa6ea6e483, 0x5cb0a9dcbd41fbd4, 0x76f988da831153b5,
   0x983e5152ee66dfab, 0xa831c66d2db43210, 0xb00327c898fb213f, 0xbf597fc7beef0ee4,
   0xc6e00bf33da88fc2, 0xd5a79147930aa725, 0x06ca6351e003826f, 0x142929670a0e6e70,
   0x27b70a8546d22ffc, 0x2e1b21385c26c926, 0x4d2c6dfc5ac42aed, 0x53380d139d95b3df,
   0x650a73548baf63de, 0x766a0abb3c77b2a8, 0x81c2c92e47edaee6, 0x92722c851482353b,
   0xa2bfe8a14cf10364, 0xa81a664bbc423001, 0xc24b8b70d0f89791, 0xc76c51a30654be30,
   0xd192e819d6ef5218, 0xd69906245565a910, 0xf40e35855771202a, 0x106aa07032bbd1b8,
   0x19a4c116b8d2d0c8, 0x1e376c085141ab53, 0x2748774cdf8eeb99, 0x34b0bcb5e19b48a8,
   0x391c0cb3c5c95a63, 0x4ed8aa4ae3418acb, 0x5b9cca4f7763e373, 0x682e6ff3d6b2b8a3,
   0x748f82ee5defb2fc, 0x78a5636f43172f60, 0x84c87814a1f0ab72, 0x8cc702081a6439ec,
   0x90befffa23631e28, 0xa4506cebde82bde9, 0xbef9a3f7b2c67915, 0xc67178f2e372532b,
   0xca273eceea26619c, 0xd186b8c721c0c207, 0xeada7dd6cde0eb1e, 0xf57d4f7fee6ed178,
   0x06f067aa72176fba, 0x0a637dc5a2c898a6, 0x113f9804bef90dae, 0x1b710b35131c471b,
   0x28db77f523047d84, 0x32caab7b40c72493, 0x3c9ebe0a15c9bebc, 0x431d67c49c100d4c,
   0x4cc5d4becb3e42b6, 0x597f299cfc657e2a, 0x5fcb6fab3ad6faec, 0x6c44198c4a475817]

def sha256 : Sha2 where
  bits := 32
  constants := roundConstants32
  initial :=
    [0x6a09e667, 0xbb67ae85, 0x3c6ef372, 0xa54ff53a, 0x510e527f, 0x9b05688c, 0x1f83d9ab,
     0x5be0cd19]
  roundRotations := ((2, 13, 22), (6, 11, 25))
  scheduleRotations := ((7, 18, 3), (17, 19, 10))
  size := 32

def sha512 : Sha2 where
  bits := 64
  constants := roundConstants64
  initial :=
    [0x6a09e667f3bcc908, 0xbb67ae8584caa73b, 0x3c6ef372fe94f82b, 0xa54ff53a5f1d36f1,
     0x510e527fade682d1, 0x9b05688c2b3e6c1f, 0x1f83d9abfb41bd6b, 0x5be0cd19137e2179]
  roundRotations := ((28, 34, 39), (14, 18, 41))
  scheduleRotations := ((1, 8, 7), (19, 61, 6))
  size := 64

/-- SHA-384: SHA-512 from another initial state, cut to 48 bytes. -/
def sha384 : Sha2 where
  bits := 64
  constants := roundConstants64
  initial :=
    [0xcbbb9d5dc1059ed8, 0x629a292a367cd507, 0x9159015a3070dd17, 0x152fecd8f70e5939,
     0x67332667ffc00b31, 0x8eb44a8768581511, 0xdb0c2e0d64f98fa7, 0x47b5481dbefa4fa4]
  roundRotations := ((28, 34, 39), (14, 18, 41))
  scheduleRotations := ((1, 8, 7), (19, 61, 6))
  size := 48

end BearerAuth.Signature
