import BearerAuth.Claims.Error
import BearerAuth.Http.Status
import BearerAuth.KeyStore

/-!
# Errors of authentication

One attempt to authenticate fails with an `AuthError`, which keeps the error it was caused by. The
client sees a `Rejection`: a status and a detail text, both of which follow from the error.
-/

namespace BearerAuth

/-- Why a token is refused before its payload is looked at. -/
inductive TokenError where
  /-- There are fewer than three parts. -/
  | invalidToken
  | base64
  /-- A part is not the JSON that belongs there. -/
  | json
  | invalidSignature
  | invalidAlgorithm
  | invalidKeyFormat
  /-- A claim that has to be there is absent or cannot be used. -/
  | missingRequiredClaim (key : String)
  /-- A claim has a form that cannot be used. -/
  | invalidClaimFormat (key : String)
  | expiredSignature
  | immatureSignature
  | invalidSubject
  | invalidIssuer
  | invalidAudience
  deriving DecidableEq, Repr

/-- The text of an error that names a claim. -/
def TokenError.message? : TokenError → Option String
  | missingRequiredClaim key => some ("Missing required claim: " ++ key)
  | invalidClaimFormat key => some ("Invalid format for claim: " ++ key)
  | _ => none

inductive IntrospectionError where
  | http
  | status (status : Http.Status) (body : String)
  /-- The body is not an introspection response. -/
  | invalidResponse
  deriving DecidableEq, Repr

/-- The text of an error that carries a status. -/
def IntrospectionError.message? : IntrospectionError → Option String
  | status s body => some ("Introspection endpoint returned " ++ s.text ++ ": " ++ body)
  | _ => none

/-- What an authentication error was caused by. -/
inductive Cause where
  | token (e : TokenError)
  | claims (e : ClaimsError)
  | introspection (e : IntrospectionError)
  /-- Any other error, by its text. -/
  | other (text : String)
  deriving DecidableEq, Repr

/-- Why one attempt to authenticate fails. -/
inductive AuthError where
  | missingCredentials (text : String)
  /-- The credentials are not a bearer token. -/
  | invalidCredentials (text : String)
  /-- The token breaks the policy. -/
  | invalidToken (text : String) (cause : Option Cause)
  /-- The claims of the token do not make a payload. -/
  | invalidPayload (text : String) (cause : Option Cause)
  | notVerified (text : String) (cause : Option Cause)
  | keyResolution (e : KeyStoreError)
  deriving DecidableEq, Repr

namespace AuthError

/-! ## Texts of errors that say nothing else -/

def missingCredentialsText : String := "Missing Credentials"

def invalidCredentialsText : String := "Invalid Credentials"

def invalidTokenText : String := "Invalid JWT"

def invalidPayloadText : String := "Invalid JWT payload"

def notVerifiedText : String := "JWT not verified"

/-! ## What the client sees -/

def message : AuthError → String
  | missingCredentials text | invalidCredentials text => text
  | invalidToken text _ | invalidPayload text _ | notVerified text _ => text
  | keyResolution e => "Failed to resolve the JWT signing key: " ++ e.message

/-- The status that the client sees: one asks for credentials, the other refuses them. -/
def status : AuthError → Http.Status
  | missingCredentials _ | invalidCredentials _ => .unauthorized
  | invalidToken _ _ | invalidPayload _ _ | notVerified _ _ | keyResolution _ => .forbidden

def detail (e : AuthError) : String :=
  match e with
  | missingCredentials _ | invalidCredentials _ => e.message
  | invalidToken _ _ | keyResolution _ => "Invalid JWT: " ++ e.message
  | invalidPayload _ _ => "Invalid payload: " ++ e.message
  | notVerified _ _ => "Not verified: " ++ e.message

end AuthError

/-- A failed attempt as the client sees it. -/
structure Rejection where
  status : Http.Status
  detail : String
  /-- The error behind it. -/
  cause : AuthError
  deriving DecidableEq, Repr

namespace Rejection

def ofError (e : AuthError) : Rejection :=
  ⟨e.status, e.detail, e⟩

/-- Status and detail in one line. -/
def text (r : Rejection) : String :=
  r.status.text ++ ": " ++ r.detail

end Rejection

end BearerAuth
