import BearerAuth.Algorithm
import BearerAuth.Json.Field

/-!
# JSON Web Keys

A key has common optional members and the parameters of one of four kinds. Members outside these are
dropped; a member of the wrong type, a missing parameter or a repeated declared member makes the
key unreadable.
-/

namespace BearerAuth

/-- The curve of an elliptic-curve or octet-pair key. -/
inductive CurveName where
  | p256
  | p384
  | p521
  | ed25519
  deriving DecidableEq, Repr

namespace CurveName

def all : List CurveName :=
  [p256, p384, p521, ed25519]

def name : CurveName → String
  | p256 => "P-256"
  | p384 => "P-384"
  | p521 => "P-521"
  | ed25519 => "Ed25519"

def ofName? (s : String) : Option CurveName :=
  all.find? fun c => c.name = s

end CurveName

/-- The parameters of a key; texts are kept as they are written. -/
inductive KeyParameters where
  | rsa (n e : String)
  | ellipticCurve (curve : CurveName) (x y : String)
  | octets (k : String)
  | octetPair (curve : CurveName) (x : String)
  deriving DecidableEq, Repr

structure Jwk where
  /-- What the key is for. -/
  use : Option String
  /-- The operations the key is for. -/
  operations : Option (List String)
  /-- The algorithm the key is for. -/
  algorithm : Option String
  /-- The key id. -/
  kid : Option String
  /-- Location of the certificate chain. -/
  x5u : Option String
  /-- The certificate chain. -/
  x5c : Option (List String)
  /-- SHA-1 thumbprint of the certificate. -/
  x5t : Option String
  /-- SHA-256 thumbprint of the certificate. -/
  x5tS256 : Option String
  /-- The key itself. -/
  parameters : KeyParameters
  deriving DecidableEq, Repr

namespace Jwk

/-- Names of key algorithms that are kept; any other reads as `unknownAlgorithm`. -/
def knownAlgorithms : List String :=
  Algorithm.all.map Algorithm.name ++ ["RSA1_5", "RSA-OAEP", "RSA-OAEP-256"]

def unknownAlgorithm : String := "UNKNOWN_ALGORITHM"

def algorithmName? (v : Json) : Option String :=
  v.name?.map fun s => if knownAlgorithms.contains s then s else unknownAlgorithm

def curve? (v : Json) : Option CurveName :=
  v.name?.bind CurveName.ofName?

/-- Reads the parameters that the key type asks for. -/
def parameters? (members : Json.Members) : Option KeyParameters := do
  let text := fun key => Json.Members.required? Json.string? members key
  let curve := Json.Members.required? curve? members "crv"
  let kind ← Json.Members.required? Json.name? members "kty"
  if kind = "EC" then
    return .ellipticCurve (← curve) (← text "x") (← text "y")
  else if kind = "RSA" then
    return .rsa (← text "n") (← text "e")
  else if kind = "oct" then
    return .octets (← text "k")
  else if kind = "OKP" then
    return .octetPair (← curve) (← text "x")
  else
    none

def ofJson? : Json → Option Jwk
  | .obj members => do
    let text := fun key => Json.Members.optional? Json.string? members key
    let texts := fun key => Json.Members.optional? Json.strings? members key
    return {
      use := ← text "use"
      operations := ← texts "key_ops"
      algorithm := ← Json.Members.optional? algorithmName? members "alg"
      kid := ← text "kid"
      x5u := ← text "x5u"
      x5c := ← texts "x5c"
      x5t := ← text "x5t"
      x5tS256 := ← text "x5t#S256"
      parameters := ← parameters? members
    }
  | _ => none

def parameterMembers : KeyParameters → Json.Members
  | .rsa n e => [("kty", .str "RSA"), ("n", .str n), ("e", .str e)]
  | .ellipticCurve curve x y =>
    [("kty", .str "EC"), ("crv", .str curve.name), ("x", .str x), ("y", .str y)]
  | .octets k => [("kty", .str "oct"), ("k", .str k)]
  | .octetPair curve x => [("kty", .str "OKP"), ("crv", .str curve.name), ("x", .str x)]

/-- A key as a JSON object; absent members are left out. -/
def toJson (key : Jwk) : Json :=
  let text := fun name (v : Option String) => v.toList.map fun s => (name, Json.str s)
  let texts := fun name (v : Option (List String)) =>
    v.toList.map fun items => (name, Json.ofStrings items)
  .obj (text "use" key.use ++ texts "key_ops" key.operations ++ text "alg" key.algorithm ++
    text "kid" key.kid ++ text "x5u" key.x5u ++ texts "x5c" key.x5c ++ text "x5t" key.x5t ++
    text "x5t#S256" key.x5tS256 ++ parameterMembers key.parameters)

end Jwk

end BearerAuth
