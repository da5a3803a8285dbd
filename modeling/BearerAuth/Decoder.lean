import BearerAuth.Claims.Payload
import BearerAuth.Policy.Display
import BearerAuth.Token.Signed

/-!
# Decoding bearer tokens

A decoder turns a token into a payload. The key id comes from the header, the key from a store, and
the claims of the checked token are handed to a reader of payloads. Each stage has its own error.
-/

namespace BearerAuth

/-- Says which tokens are decoded. -/
structure Decoder where
  policy : Policy
  /-- The subject that tokens have to name, if they name any. -/
  subject : Option String
  deriving DecidableEq, Repr

namespace Decoder

def decodeFailed : String := "Failed to decode the JWT bearer token payload"

def keyIdFailed : String := "Failed to get the kid from the JWT header"

def payloadFailed : String := "Failed to validate the JWT bearer token payload"

def refuse (e : TokenError) : AuthError :=
  .invalidToken decodeFailed (some (.token e))

/-- The key id in the header of a token, which has not been checked. -/
def keyId (token : String) : Except AuthError String :=
  match SignedToken.keyId token with
  | .ok kid => .ok kid
  | .error cause => .error (.invalidToken keyIdFailed (cause.map .token))

/-- The claims of a token that is checked with a given key. -/
def claims (d : Decoder) (now : Nat) (key : VerifyingKey) (token : String) :
    Except AuthError Json.Members :=
  match SignedToken.claims d.policy d.subject now key token with
  | .ok members => .ok members
  | .error e => .error (refuse e)

/-- The key that a store has for a token. -/
def resolveKey (lookup : String → Except KeyStoreError Jwk) (kid : String) :
    Except AuthError VerifyingKey :=
  match lookup kid with
  | .error e => .error (.keyResolution e)
  | .ok jwk =>
    match VerifyingKey.ofJwk? jwk with
    | none => .error (refuse .base64)
    | some key => .ok key

def readPayload {π : Type} (read : Json.Members → Except Cause π) (members : Json.Members) :
    Except AuthError π :=
  match read members with
  | .ok payload => .ok payload
  | .error cause => .error (.invalidPayload payloadFailed (some cause))

/-- Decodes a token with the keys of a store at a given time. -/
def decode {π : Type} (d : Decoder) (read : Json.Members → Except Cause π)
    (lookup : String → Except KeyStoreError Jwk) (now : Nat) (token : String) :
    Except AuthError π := do
  let kid ← keyId token
  let key ← resolveKey lookup kid
  let members ← d.claims now key token
  readPayload read members

def payload (members : Json.Members) : Except Cause Payload :=
  (Payload.ofClaims members).mapError .claims

def rawClaims (members : Json.Members) : Except Cause Json.Members :=
  .ok members

def describe (d : Decoder) : String :=
  "JwkStoreTokenDecoder \x7b config: " ++ d.policy.describe ++ ", subject: " ++
    describeOption (d.subject.map Text.quoted) ++ ", .. \x7d"

end Decoder

end BearerAuth
