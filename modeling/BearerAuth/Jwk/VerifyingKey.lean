import BearerAuth.Base64Url
import BearerAuth.Jwk.Basic
import BearerAuth.Signature.Ecdsa
import BearerAuth.Signature.Ed25519
import BearerAuth.Signature.Hmac
import BearerAuth.Signature.Rsa

/-!
# Verifying keys

The key material of a JSON Web Key as bytes, and the check of a signature under one algorithm. The
declared use, algorithm, operations and curve of a key do not restrict it; only its family has to
fit the algorithm. Key material that is not usable makes every signature invalid.
-/

namespace BearerAuth

open Signature

/-- Key material of one family. -/
inductive VerifyingKey where
  | rsa (modulus exponent : List UInt8)
  /-- A point in uncompressed form. -/
  | ellipticCurve (point : List UInt8)
  | edwards (key : List UInt8)
  | hmac (secret : List UInt8)
  deriving DecidableEq, Repr

namespace VerifyingKey

def family : VerifyingKey → KeyFamily
  | rsa _ _ => .rsa
  | ellipticCurve _ => .ellipticCurve
  | edwards _ => .edwards
  | hmac _ => .hmac

def bytes? (s : String) : Option (List UInt8) :=
  Base64Url.decode? s.toList

/-- The key material of a JSON Web Key, unless a parameter is not base64. -/
def ofJwk? (key : Jwk) : Option VerifyingKey :=
  match key.parameters with
  | .rsa n e => do return .rsa (← bytes? n) (← bytes? e)
  | .ellipticCurve _ x y => do return .ellipticCurve (4 :: (← bytes? x) ++ (← bytes? y))
  | .octets k => do return .hmac (← bytes? k)
  | .octetPair _ x => do return .edwards (← bytes? x)

def digestOf : Algorithm → Sha2
  | .HS256 | .ES256 | .RS256 | .PS256 => sha256
  | .HS384 | .ES384 | .RS384 | .PS384 => sha384
  | .HS512 | .RS512 | .PS512 | .EdDSA => sha512

/-- Whether `signature` is a valid signature of `message` under an algorithm and this key. -/
def verify (key : VerifyingKey) (algorithm : Algorithm) (message signature : List UInt8) : Bool :=
  let digest := digestOf algorithm
  match algorithm, key with
  | .HS256, .hmac secret | .HS384, .hmac secret | .HS512, .hmac secret =>
    digest.hmac secret message == signature
  | .ES256, .ellipticCurve point => Curve.p256.verify digest point message signature
  | .ES384, .ellipticCurve point => Curve.p384.verify digest point message signature
  | .RS256, .rsa n e | .RS384, .rsa n e | .RS512, .rsa n e =>
    (RsaKey.ofBytes? n e).any fun k => k.verifyPkcs1 digest message signature
  | .PS256, .rsa n e | .PS384, .rsa n e | .PS512, .rsa n e =>
    (RsaKey.ofBytes? n e).any fun k => k.verifyPss digest message signature
  | .EdDSA, .edwards point => Ed25519.verify point message signature
  | _, _ => false

end VerifyingKey

end BearerAuth
