import BearerAuth.Jwk.VerifyingKey
import BearerAuth.Token.Header
import BearerAuth.Token.Registered

/-!
# Signed tokens

Checking a token against a key and a policy. The header is read first and its algorithm has to be
allowed; the key has to fit the algorithm; the signature is checked under exactly that algorithm;
then the claims are read and the registered ones are compared.
-/

namespace BearerAuth

namespace SignedToken

/-- Checks algorithm, key and signature of a token whose header has been read. -/
def checkSignature (policy : Policy) (key : VerifyingKey) (parts : CompactToken)
    (header : TokenHeader) : Except TokenError Unit :=
  -- The header names the algorithm itself, so nothing is tried before the policy has allowed it.
  if !policy.allows header.algorithm then .error .invalidAlgorithm
  else if key.family ≠ header.algorithm.family then .error .invalidKeyFormat
  else
    match Base64Url.decode? parts.signature with
    | none => .error .base64
    | some signature =>
      if key.verify header.algorithm parts.signedBytes signature then .ok ()
      else .error .invalidSignature

/-- The members of the claims object, as they are written. -/
def claimMembers (parts : CompactToken) : Except TokenError Json.Members :=
  CompactToken.partJson parts.payload >>= fun v =>
    match v with
    | .obj members => .ok members
    | _ => .error .json

/-- The claims of a token that passes every check. -/
def claims (policy : Policy) (subject : Option String) (now : Nat) (key : VerifyingKey)
    (token : String) : Except TokenError Json.Members := do
  let (parts, header) ← TokenHeader.ofToken token
  checkSignature policy key parts header
  let members ← claimMembers parts
  Registered.check policy subject now members
  return Json.Members.mergedDeep members

/-- The key id in the header of a token, which has not been checked; no error where there is no
key id. -/
def keyId (token : String) : Except (Option TokenError) String :=
  match TokenHeader.ofToken token with
  | .error e => .error (some e)
  | .ok (_, header) =>
    match header.kid with
    | some kid => .ok kid
    | none => .error none

end SignedToken

end BearerAuth
