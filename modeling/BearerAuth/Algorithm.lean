/-!
# Signature algorithms

The twelve algorithms that a token header may name. Nine of them are asymmetric and can be allowed
by a policy; the three HMAC algorithms can be named but never allowed.
-/

namespace BearerAuth

inductive Algorithm where
  | HS256
  | HS384
  | HS512
  | ES256
  | ES384
  | RS256
  | RS384
  | RS512
  | PS256
  | PS384
  | PS512
  | EdDSA
  deriving DecidableEq, Repr

/-- The kind of key that an algorithm works with. -/
inductive KeyFamily where
  | rsa
  | ellipticCurve
  | edwards
  | hmac
  deriving DecidableEq, Repr

namespace Algorithm

def all : List Algorithm :=
  [HS256, HS384, HS512, ES256, ES384, RS256, RS384, RS512, PS256, PS384, PS512, EdDSA]

def name : Algorithm → String
  | HS256 => "HS256"
  | HS384 => "HS384"
  | HS512 => "HS512"
  | ES256 => "ES256"
  | ES384 => "ES384"
  | RS256 => "RS256"
  | RS384 => "RS384"
  | RS512 => "RS512"
  | PS256 => "PS256"
  | PS384 => "PS384"
  | PS512 => "PS512"
  | EdDSA => "EdDSA"

/-- The algorithm with a registered name; names are case-sensitive. -/
def ofName? (s : String) : Option Algorithm :=
  all.find? fun a => a.name = s

def family : Algorithm → KeyFamily
  | HS256 | HS384 | HS512 => .hmac
  | ES256 | ES384 => .ellipticCurve
  | RS256 | RS384 | RS512 | PS256 | PS384 | PS512 => .rsa
  | EdDSA => .edwards

/-- Whether signer and verifier hold different keys. -/
def isAsymmetric (a : Algorithm) : Bool :=
  a.family != .hmac

def asymmetricOfName? (s : String) : Option Algorithm :=
  (ofName? s).filter isAsymmetric

/-- The algorithms of a policy that names none: every asymmetric one. -/
def defaults : List Algorithm :=
  [RS256, RS384, RS512, PS256, PS384, PS512, ES256, ES384, EdDSA]

theorem ofName?_name (a : Algorithm) : ofName? a.name = some a := by
  cases a <;> decide

end Algorithm

end BearerAuth
