/-!
# UTF-8

Encoding of characters, and a decoder that works byte by byte. The decoder reports one result per
character and one failure per maximal malformed sequence, so that the strict and the replacing
reading of a byte string are two views of the same scan.
-/

namespace BearerAuth.Text.Utf8

/-! ## Encoding -/

def encodeChar (c : Char) : List UInt8 :=
  let n := c.toNat
  if n < 0x80 then [UInt8.ofNat n]
  else if n < 0x800 then [UInt8.ofNat (0xC0 + n / 64), UInt8.ofNat (0x80 + n % 64)]
  else if n < 0x10000 then
    [UInt8.ofNat (0xE0 + n / 4096), UInt8.ofNat (0x80 + n / 64 % 64), UInt8.ofNat (0x80 + n % 64)]
  else
    [UInt8.ofNat (0xF0 + n / 262144), UInt8.ofNat (0x80 + n / 4096 % 64),
      UInt8.ofNat (0x80 + n / 64 % 64), UInt8.ofNat (0x80 + n % 64)]

def encodeChars (cs : List Char) : List UInt8 :=
  cs.flatMap encodeChar

def encode (s : String) : List UInt8 :=
  encodeChars s.toList

/-! ## Decoding -/

/-- A character of which some bytes have been read. -/
structure Partial where
  /-- Bits read so far. -/
  value : Nat
  /-- Bytes still missing. -/
  missing : Nat
  /-- Smallest admissible next byte. -/
  low : Nat
  /-- Largest admissible next byte. -/
  high : Nat
  deriving DecidableEq, Repr

/-- What a byte does where a character may start: a character, a failure, or the start of a longer
sequence. The bounds on the second byte rule out overlong forms, surrogates and code points beyond
U+10FFFF. -/
def start (b : Nat) : List (Option Char) × Option Partial :=
  if b < 0x80 then ([some (Char.ofNat b)], none)
  else if b < 0xC2 then ([none], none)
  else if b < 0xE0 then ([], some ⟨b - 0xC0, 1, 0x80, 0xBF⟩)
  else if b < 0xF0 then
    ([], some ⟨b - 0xE0, 2, if b = 0xE0 then 0xA0 else 0x80, if b = 0xED then 0x9F else 0xBF⟩)
  else if b < 0xF5 then
    ([], some ⟨b - 0xF0, 3, if b = 0xF0 then 0x90 else 0x80, if b = 0xF4 then 0x8F else 0xBF⟩)
  else ([none], none)

/-- One byte in any position; a byte that cannot continue a sequence ends it and starts afresh. -/
def feed : Option Partial → Nat → List (Option Char) × Option Partial
  | none, b => start b
  | some p, b =>
    if p.low ≤ b ∧ b ≤ p.high then
      let value := p.value * 64 + (b - 0x80)
      if p.missing ≤ 1 then ([some (Char.ofNat value)], none)
      else ([], some ⟨value, p.missing - 1, 0x80, 0xBF⟩)
    else
      let (out, next) := start b
      (none :: out, next)

/-- The characters and failures of a byte string, after the given incomplete sequence. -/
def scanFrom : Option Partial → List UInt8 → List (Option Char)
  | none, [] => []
  | some _, [] => [none]
  | p, b :: bs =>
    let (out, next) := feed p b.toNat
    out ++ scanFrom next bs

def scan (bytes : List UInt8) : List (Option Char) :=
  scanFrom none bytes

/-- The characters of a byte string, when all of it is well formed. -/
def decode? (bytes : List UInt8) : Option (List Char) :=
  (scan bytes).mapM id

/-- The text of a byte string with U+FFFD in place of each malformed sequence. -/
def decodeReplacing (bytes : List UInt8) : String :=
  String.ofList ((scan bytes).map fun c => c.getD (Char.ofNat 0xFFFD))

end BearerAuth.Text.Utf8
