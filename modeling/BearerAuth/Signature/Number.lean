/-!
# Big-endian integers and modular arithmetic

The number theory that the signature schemes share.
-/

namespace BearerAuth.Signature

/-- The integer of a byte string, most significant byte first. -/
def ofBytes (bytes : List UInt8) : Nat :=
  bytes.foldl (fun n b => n * 256 + b.toNat) 0

/-- The integer of a byte string, least significant byte first. -/
def ofBytesLittle (bytes : List UInt8) : Nat :=
  ofBytes bytes.reverse

/-- The last `size` bytes of an integer, least significant byte first. -/
def toBytesLittle : Nat → Nat → List UInt8
  | 0, _ => []
  | size + 1, n => UInt8.ofNat (n % 256) :: toBytesLittle size (n / 256)

/-- The last `size` bytes of an integer, most significant byte first. -/
def toBytes (size n : Nat) : List UInt8 :=
  (toBytesLittle size n).reverse

def bitLength (n : Nat) : Nat :=
  if n = 0 then 0 else n.log2 + 1

/-- Power by repeated squaring, modulo `m`, over the given number of exponent bits. -/
def powModBits (m : Nat) : Nat → Nat → Nat → Nat
  | 0, _, _ => 1 % m
  | bits + 1, base, exponent =>
    let rest := powModBits m bits (base * base % m) (exponent / 2)
    if exponent % 2 = 1 then base * rest % m else rest

def powMod (base exponent m : Nat) : Nat :=
  powModBits m (bitLength exponent) (base % m) exponent

/-- Inverse modulo a prime, by Fermat's little theorem. -/
def inverse (n prime : Nat) : Nat :=
  powMod n (prime - 2) prime

/-- Difference modulo `m` of two residues. -/
def subMod (a b m : Nat) : Nat :=
  (a + m - b % m) % m

end BearerAuth.Signature
