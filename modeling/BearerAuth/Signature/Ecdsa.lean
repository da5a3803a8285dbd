import BearerAuth.Signature.Sha2

/-!
# ECDSA signatures

Verification over the prime curves P-256 and P-384, with signatures in the fixed form `r || s` and
public keys in the uncompressed form `04 || x || y`. Points are affine; the point at infinity is
`none`.
-/

namespace BearerAuth.Signature

/-- A curve `y ^ 2 = x ^ 3 - 3 * x + b` over a prime field, with a base point of prime order. -/
structure Curve where
  /-- Prime of the field. -/
  prime : Nat
  /-- Constant of the equation. -/
  b : Nat
  base : Nat × Nat
  /-- Order of the base point. -/
  order : Nat
  /-- Bytes of a field element. -/
  size : Nat

def Curve.p256 : Curve where
  prime := 0xffffffff00000001000000000000000000000000ffffffffffffffffffffffff
  b := 0x5ac635d8aa3a93e7b3ebbd55769886bc651d06b0cc53b0f63bce3c3e27d2604b
  base :=
    (0x6b17d1f2e12c4247f8bce6e563a440f277037d812deb33a0f4a13945d898c296,
      0x4fe342e2fe1a7f9b8ee7eb4a7c0f9e162bce33576b315ececbb6406837bf51f5)
  order := 0xffffffff00000000ffffffffffffffffbce6faada7179e84f3b9cac2fc632551
  size := 32

def Curve.p384 : Curve where
  prime :=
    0xfffffffffffffffffffffffffffffffffffffffffffffffffffffffffffffffeffffffff0000000000000000ffffffff
  b :=
    0xb3312fa7e23ee7e4988e056be3f82d19181d9c6efe8141120314088f5013875ac656398d8a2ed19d2a85c8edd3ec2aef
  base :=
    (0xaa87ca22be8b05378eb1c71ef320ad746e1d3b628ba79b9859f741e082542a385502f25dbf55296c3a545e3872760ab7,
      0x3617de4a96262c6f5d9e98bf9292dc29f8f41dbd289a147ce9da3113b5f0b8c00a60b1ce1d7e819d7a431d7c90ea0e5f)
  order :=
    0xffffffffffffffffffffffffffffffffffffffffffffffffc7634d81f4372ddf581a0db248b0a77aecec196accc52973
  size := 48

namespace Curve

/-- A point of the curve; `none` is the point at infinity. -/
abbrev Point := Option (Nat × Nat)

/-- Whether coordinates are reduced and satisfy the equation. -/
def contains (c : Curve) (x y : Nat) : Bool :=
  x < c.prime && y < c.prime &&
    (y * y) % c.prime == subMod ((x * x % c.prime * x + c.b) % c.prime) (3 * x) c.prime

/-- The third point of a line of the given slope through two points, mirrored. -/
def chord (c : Curve) (slope x₁ y₁ x₂ : Nat) : Point :=
  let x := subMod (subMod (slope * slope % c.prime) x₁ c.prime) x₂ c.prime
  some (x, subMod (slope * subMod x₁ x c.prime % c.prime) y₁ c.prime)

def add (c : Curve) : Point → Point → Point
  | none, q => q
  | p, none => p
  | some (x₁, y₁), some (x₂, y₂) =>
    -- Two points above each other are opposite or equal.
    if x₁ = x₂ then
      if (y₁ + y₂) % c.prime = 0 then none
      else
        c.chord (subMod (3 * x₁ * x₁ % c.prime) 3 c.prime * inverse (2 * y₁) c.prime % c.prime)
          x₁ y₁ x₂
    else
      c.chord (subMod y₂ y₁ c.prime * inverse (subMod x₂ x₁ c.prime) c.prime % c.prime) x₁ y₁ x₂

/-- `u * p + w * q`, given the point `p + q`, over the given number of low bits of the factors. -/
def combine (c : Curve) (p q both : Point) : Nat → Nat → Nat → Point
  | 0, _, _ => none
  | bits + 1, u, w =>
    let half := combine c p q both bits (u / 2) (w / 2)
    let double := c.add half half
    -- One addition for both lowest bits; their sum is given.
    match u % 2, w % 2 with
    | 0, 0 => double
    | 0, _ => c.add double q
    | _, 0 => c.add double p
    | _, _ => c.add double both

/-- The point of a public key in uncompressed form. -/
def publicPoint? (c : Curve) (key : List UInt8) : Option (Nat × Nat) :=
  match key with
  | 4 :: coordinates =>
    let x := ofBytes (coordinates.take c.size)
    let y := ofBytes (coordinates.drop c.size)
    if coordinates.length = 2 * c.size ∧ c.contains x y then some (x, y) else none
  | _ => none

/-- Whether a signature of a message digest is valid under a public point. -/
def verifyDigest (c : Curve) (point : Nat × Nat) (digest : Nat) (r s : Nat) : Bool :=
  if 0 < r && r < c.order && 0 < s && s < c.order then
    let inv := inverse s c.order
    let u := digest * inv % c.order
    let w := r * inv % c.order
    let sum :=
      c.combine (some c.base) (some point) (c.add (some c.base) (some point)) (8 * c.size) u w
    match sum with
    | some (x, _) => x % c.order == r
    | none => false
  else false

/-- Whether a signature in fixed form is valid. -/
def verify (c : Curve) (v : Sha2) (key message signature : List UInt8) : Bool :=
  match c.publicPoint? key with
  | some point =>
    signature.length == 2 * c.size &&
      c.verifyDigest point (ofBytes (v.digest message)) (ofBytes (signature.take c.size))
        (ofBytes (signature.drop c.size))
  | none => false

end Curve

end BearerAuth.Signature
