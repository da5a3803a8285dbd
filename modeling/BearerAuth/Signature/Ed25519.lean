import BearerAuth.Signature.Sha2

/-!
# Ed25519 signatures

Verification over the twisted Edwards curve `-x ^ 2 + y ^ 2 = 1 + d * x ^ 2 * y ^ 2` modulo
`2 ^ 255 - 19`, in extended coordinates, where one addition formula serves every pair of points. The
scalar of a signature must be below the group order, and the point that the equation yields must
have exactly the encoding that the signature starts with.
-/

namespace BearerAuth.Signature.Ed25519

def prime : Nat := Nat.pow 2 255 - 19

def order : Nat := Nat.pow 2 252 + 27742317777372353535851937790883648493

/-- Constant of the curve. -/
def d : Nat := 37095705934669439343138083508754565189542113879843219016388785533085940283555

def rootOfMinusOne : Nat := powMod 2 ((prime - 1) / 4) prime

/-- A point in extended coordinates: `x / z`, `y / z`, and `t / z` is their product. -/
structure Point where
  x : Nat
  y : Nat
  z : Nat
  t : Nat
  deriving DecidableEq, Repr

def Point.zero : Point := ⟨0, 1, 1, 0⟩

def Point.add (p q : Point) : Point :=
  let a := subMod p.y p.x prime * subMod q.y q.x prime % prime
  let b := (p.y + p.x) * (q.y + q.x) % prime
  let c := 2 * p.t * q.t % prime * d % prime
  let e := 2 * p.z * q.z % prime
  let f := subMod b a prime
  let g := subMod e c prime
  let h := (e + c) % prime
  let i := (b + a) % prime
  ⟨f * g % prime, h * i % prime, g * h % prime, f * i % prime⟩

/-- The point mirrored at the `y` axis. -/
def Point.neg (p : Point) : Point :=
  ⟨subMod 0 p.x prime, p.y, p.z, subMod 0 p.t prime⟩

/-- A multiple of a point, over the given number of low bits of the factor. -/
def Point.times (p : Point) : Nat → Nat → Point
  | 0, _ => .zero
  | bits + 1, n =>
    let half := p.times bits (n / 2)
    let double := half.add half
    if n % 2 = 1 then double.add p else double

/-- The coordinate `x` with the given lowest bit that belongs to `y`. -/
def recoverX? (y sign : Nat) : Option Nat :=
  let u := subMod (y * y % prime) 1 prime
  let v := (d * (y * y % prime) + 1) % prime
  let square := u * inverse v prime % prime
  let root := powMod square ((prime + 3) / 8) prime
  let root :=
    if root * root % prime = square then root else root * rootOfMinusOne % prime
  if root * root % prime ≠ square then none
  else if root = 0 ∧ sign = 1 then none
  else some (if root % 2 = sign then root else subMod 0 root prime)

/-- The point of a 32-byte encoding. -/
def Point.decode? (bytes : List UInt8) : Option Point :=
  let n := ofBytesLittle bytes
  let y := n % Nat.pow 2 255
  if bytes.length = 32 ∧ y < prime then
    (recoverX? y (n / Nat.pow 2 255)).map fun x => ⟨x, y, 1, x * y % prime⟩
  else none

def Point.encode (p : Point) : List UInt8 :=
  let inv := inverse p.z prime
  let x := p.x * inv % prime
  let y := p.y * inv % prime
  toBytesLittle 32 (y + x % 2 * Nat.pow 2 255)

def base : Point :=
  let y := 4 * inverse 5 prime % prime
  match recoverX? y 0 with
  | some x => ⟨x, y, 1, x * y % prime⟩
  | none => .zero

def verify (key message signature : List UInt8) : Bool :=
  match Point.decode? key with
  | some a =>
    let r := signature.take 32
    let s := ofBytesLittle (signature.drop 32)
    let k := ofBytesLittle (sha512.digest (r ++ key ++ message)) % order
    signature.length == 64 && s < order &&
      ((base.times 253 s).add (a.neg.times 253 k)).encode == r
  | none => false

end BearerAuth.Signature.Ed25519
