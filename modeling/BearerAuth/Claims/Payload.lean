import BearerAuth.Claims.StringList
import BearerAuth.Claims.Timestamp

/-!
# Payloads

A payload is what a verified claims object says, in normal form. Claims are checked in a fixed
order, the first fault is reported, and other members do not matter. The claims of a payload read
back as the same payload.
-/

namespace BearerAuth

/-- The claims of a verified token. -/
structure Payload where
  /-- Granted scopes, in lower case. -/
  scope : List String
  /-- Audiences, in lower case. -/
  aud : List String
  iss : String
  exp : Instant
  /-- Time of issue. -/
  iat : Instant
  /-- Start of validity. -/
  nbf : Instant
  sub : String
  deriving DecidableEq, Repr

namespace Claims

/-- Names the claim that an error is about. -/
def about {α : Type} (claim : ClaimName) : Except ClaimsError α → Except ClaimsError α
  | .ok a => .ok a
  | .error e => .error (.invalidClaim claim e)

/-- A value that has to be there. -/
def present {α : Type} (claim : ClaimName) : Option α → Except ClaimsError α
  | some a => .ok a
  | none => .error (.missingClaim claim)

/-- The value of the scope: the member `scope`, or `scp` when there is none. -/
def scopeValue? (claims : Json.Members) : Option Json :=
  (claims.get? "scope").or (claims.get? "scp")

def plainText : Json → Except ClaimsError String
  | .str s => .ok s
  | _ => .error .expectedString

def timestampValue (v : Json) : Except ClaimsError Instant :=
  timestampInput v >>= timestamp

def claim {α : Type} (read : Json → Except ClaimsError α) (claims : Json.Members)
    (name : ClaimName) : Except ClaimsError α :=
  present name (claims.get? name.key) >>= fun v => about name (read v)

end Claims

namespace Payload

def ofClaims (claims : Json.Members) : Except ClaimsError Payload := do
  let scope ← Claims.present .scope (Claims.scopeValue? claims) >>= fun v =>
    Claims.about .scope (Claims.stringList v)
  let aud ← Claims.claim Claims.stringList claims .aud
  let iss ← Claims.claim Claims.plainText claims .iss
  let exp ← Claims.claim Claims.timestampValue claims .exp
  let iat ← Claims.claim Claims.timestampValue claims .iat
  let nbf ← Claims.claim Claims.timestampValue claims .nbf
  let sub ← Claims.claim Claims.plainText claims .sub
  return ⟨scope, aud, iss, exp, iat, nbf, sub⟩

def toClaims (p : Payload) : Json.Members :=
  [("scope", Json.ofStrings p.scope), ("aud", Json.ofStrings p.aud), ("iss", .str p.iss),
    ("exp", Json.ofInt p.exp.seconds), ("iat", Json.ofInt p.iat.seconds),
    ("nbf", Json.ofInt p.nbf.seconds), ("sub", .str p.sub)]

def toJson (p : Payload) : Json :=
  .obj p.toClaims

/-- Whether a scope is granted; letter case does not count. -/
def hasScope (p : Payload) (scope : String) : Bool :=
  p.scope.contains (Text.lower scope)

end Payload

end BearerAuth
