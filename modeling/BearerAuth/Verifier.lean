import BearerAuth.AuthError
import BearerAuth.Claims.Payload

/-!
# Verifiers

A verifier looks at a decoded payload and may refuse the token for reasons that the signature cannot
express. The scope verifier refuses a payload that lacks a required scope; letter case does not
count.
-/

namespace BearerAuth.Verifier

def acceptAll {π : Type} (_ : π) : Except AuthError Unit :=
  .ok ()

def lowered (required : List String) : List String :=
  required.map Text.lower

/-- The required scopes that a payload lacks, in order. -/
def missingScopes (required : List String) (payload : Payload) : List String :=
  (lowered required).filter fun scope => !payload.hasScope scope

def requireScopes (required : List String) (payload : Payload) : Except AuthError Unit :=
  let missing := missingScopes required payload
  if missing.isEmpty then .ok ()
  else
    .error (.notVerified ("Missing required scopes: " ++ String.intercalate ", " missing) none)

end BearerAuth.Verifier
