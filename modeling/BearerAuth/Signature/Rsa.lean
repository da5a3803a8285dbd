import BearerAuth.Signature.Sha2

/-!
# RSA signatures

Verification of PKCS #1 v1.5 and of PSS signatures, the latter with a salt as long as the digest. A
public key is used only if it is well formed: no leading zero byte in either number, an odd modulus
of 2048 to 8192 bits, and an odd exponent of 2 to 33 bits.
-/

namespace BearerAuth.Signature

structure RsaKey where
  modulus : Nat
  /-- The public exponent. -/
  exponent : Nat
  deriving DecidableEq, Repr

namespace RsaKey

/-- Whether a big-endian number is written without a leading zero byte. -/
def isMinimal (bytes : List UInt8) : Bool :=
  match bytes with
  | [] => false
  | b :: _ => b != 0

/-- The key with the given big-endian modulus and exponent, if it is usable. -/
def ofBytes? (modulus exponent : List UInt8) : Option RsaKey :=
  let n := ofBytes modulus
  let e := ofBytes exponent
  if isMinimal modulus && isMinimal exponent && n % 2 == 1 && e % 2 == 1 &&
      2048 ≤ bitLength n && bitLength n ≤ 8192 && 2 ≤ bitLength e && bitLength e ≤ 33 then
    some ⟨n, e⟩
  else none

/-- Bytes of the modulus. -/
def size (key : RsaKey) : Nat :=
  (bitLength key.modulus + 7) / 8

/-- The message representative that a signature opens to, when the signature has the right length
and is below the modulus. -/
def open? (key : RsaKey) (signature : List UInt8) : Option Nat :=
  let s := ofBytes signature
  if signature.length = key.size ∧ s < key.modulus then
    some (powMod s key.exponent key.modulus)
  else none

end RsaKey

/-! ## PKCS #1 v1.5 -/

/-- The encoded name of a digest algorithm, which precedes the digest. -/
def Sha2.derPrelude (v : Sha2) : List UInt8 :=
  let code : UInt8 := if v.size = 32 then 1 else if v.size = 48 then 2 else 3
  let size := UInt8.ofNat v.size
  [0x30, size + 17, 0x30, 0x0d, 0x06, 0x09, 0x60, 0x86, 0x48, 0x01, 0x65, 0x03, 0x04, 0x02, code,
    0x05, 0x00, 0x04, size]

/-- The encoded message of `size` bytes: `00 01 FF .. FF 00`, the name of the digest, the digest. -/
def pkcs1Encoding (v : Sha2) (size : Nat) (message : List UInt8) : List UInt8 :=
  let tail := v.derPrelude ++ v.digest message
  0 :: 1 :: List.replicate (size - 3 - tail.length) 0xFF ++ 0 :: tail

def RsaKey.verifyPkcs1 (key : RsaKey) (v : Sha2) (message signature : List UInt8) : Bool :=
  match key.open? signature with
  | some m => m == ofBytes (pkcs1Encoding v key.size message)
  | none => false

/-! ## PSS -/

/-- The mask of `size` bytes that the seed expands to: digests of the seed and a counter. -/
def maskOf (v : Sha2) (seed : List UInt8) (size : Nat) : List UInt8 :=
  let count := (size + v.size - 1) / v.size
  ((List.range count).flatMap fun i => v.digest (seed ++ toBytes 4 i)).take size

/-- Whether an encoded message of `bits` bits fits a message, with a salt as long as the digest. -/
def pssFits (v : Sha2) (bits : Nat) (message encoded : List UInt8) : Bool :=
  let dataSize := encoded.length - v.size - 1
  let masked := encoded.take dataSize
  let rest := encoded.drop dataSize
  let seed := rest.take v.size
  let spare := 8 * encoded.length - bits
  if encoded.length < 2 * v.size + 2 then false
  else if rest.drop v.size != [0xBC] then false
  else if (ofBytes (masked.take 1)) >>> (8 - spare) != 0 then false
  else
    -- The bits above the length of the modulus are masked as well, and do not count.
    let opened := List.zipWith (· ^^^ ·) masked (maskOf v seed dataSize)
    let data := toBytes dataSize (ofBytes opened % Nat.pow 2 (8 * dataSize - spare))
    let zeros := dataSize - v.size - 1
    if data.take (zeros + 1) != List.replicate zeros 0 ++ [1] then false
    else
      let salt := data.drop (zeros + 1)
      v.digest (List.replicate 8 0 ++ v.digest message ++ salt) == seed

def RsaKey.verifyPss (key : RsaKey) (v : Sha2) (message signature : List UInt8) : Bool :=
  let bits := bitLength key.modulus - 1
  let size := (bits + 7) / 8
  match key.open? signature with
  | some m => m < Nat.pow 256 size && pssFits v bits message (toBytes size m)
  | none => false

end BearerAuth.Signature
