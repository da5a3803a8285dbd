import BearerAuth.Number.Layout

/-!
# Errors of claims

What can be wrong with a claim. An error about the value of a named claim wraps the error of the
value itself; `ClaimsError.root` takes the wrappers off.
-/

namespace BearerAuth

inductive ClaimName where
  | scope
  | aud
  | iss
  | exp
  | iat
  | nbf
  | sub
  deriving DecidableEq, Repr

/-- The member of the claims object that holds a claim. -/
def ClaimName.key : ClaimName → String
  | scope => "scope"
  | aud => "aud"
  | iss => "iss"
  | exp => "exp"
  | iat => "iat"
  | nbf => "nbf"
  | sub => "sub"

inductive ClaimsError where
  /-- A list of texts has no entry left. -/
  | emptyList
  /-- A list of texts is neither a string nor an array. -/
  | expectedStringOrList
  /-- A timestamp in text is not an integer of 64 bits. -/
  | invalidTimestampString (text : String)
  /-- A timestamp lies outside the years 1 to 9999. -/
  | invalidTimestampValue (seconds : Int)
  /-- A timestamp is neither an integer nor a string. -/
  | expectedTimestamp
  | expectedString
  | missingClaim (claim : ClaimName)
  /-- The value of a claim is refused. -/
  | invalidClaim (claim : ClaimName) (cause : ClaimsError)
  deriving DecidableEq, Repr

namespace ClaimsError

/-- The error without the names of claims around it. -/
def root : ClaimsError → ClaimsError
  | invalidClaim _ cause => cause.root
  | e => e

/-- The claim that an error is about, when it is known. -/
def claim? : ClaimsError → Option ClaimName
  | missingClaim claim | invalidClaim claim _ => some claim
  | _ => none

def message : ClaimsError → String
  | emptyList => "Invalid value: empty list after processing"
  | expectedStringOrList => "Invalid value type: expected str or list"
  | invalidTimestampString text => "Invalid timestamp string: '" ++ text ++ "'"
  | invalidTimestampValue seconds => "Invalid timestamp value: " ++ Number.intText seconds
  | expectedTimestamp => "Invalid value type: expected int, str, or datetime"
  | expectedString => "Invalid value type: expected str"
  | missingClaim claim => "Missing required claim '" ++ claim.key ++ "'"
  | invalidClaim claim cause => "Invalid claim '" ++ claim.key ++ "': " ++ cause.message

end ClaimsError

end BearerAuth
