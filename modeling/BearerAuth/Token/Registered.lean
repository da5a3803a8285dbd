import BearerAuth.AuthError
import BearerAuth.Json.Value
import BearerAuth.Policy.Basic

/-!
# Registered claims

The claims about time, subject, issuer and audience are compared with a policy. A claim is compared
only when it can be read in the form that the comparison needs; of the claims here only the expiry
has to be there.

The claims are looked up in the object as it is written, before repeated keys are merged, and a
repeated registered claim makes it unreadable. So does an array or an object where the reader cannot
step over it.
-/

namespace BearerAuth

/-- A claim as the comparison sees it. -/
inductive ClaimReading (α : Type) where
  | absent
  /-- The claim is there in a form that cannot be compared. -/
  | unusable
  | value (a : α)
  deriving DecidableEq, Repr

namespace Registered

/-- The registered claims that are compared. -/
def keys : List String :=
  ["exp", "nbf", "sub", "iss", "aud"]

def isContainer : Json → Bool
  | .arr _ | .obj _ => true
  | _ => false

def isFilledContainer : Json → Bool
  | .arr (_ :: _) | .obj (_ :: _) => true
  | _ => false

/-- Whether the reader cannot step over a member. -/
def isObstacle (m : String × Json) : Bool :=
  (m.1 = "sub" && isContainer m.2) || ((m.1 = "exp" || m.1 = "nbf") && isFilledContainer m.2)

/-- Whether the registered claims can be read at all. -/
def isReadable (members : Json.Members) : Bool :=
  keys.all (fun key => (members.filter fun m => m.1 = key).length ≤ 1) && !members.any isObstacle

/-- A point in time as whole seconds: an integer that is not negative, or a number of 64 bits with a
fraction, rounded. -/
def seconds? : Json → Option Nat
  | .num (.int n) => if 0 ≤ n then some n.toNat else none
  | .num (.double x) =>
    if (x.negative && !x.isZero) || Number.maxUInt64 < x.roundedMagnitude then none
    else some x.roundedMagnitude
  | _ => none

def texts? : Json → Option (List String)
  | .str s => some [s]
  | v => v.strings?

/-- Reads a claim in the form that a comparison needs. -/
def reading {α : Type} (read : Json → Option α) (members : Json.Members) (key : String) :
    ClaimReading α :=
  match members.get? key with
  | none => .absent
  | some v =>
    match read v with
    | some a => .value a
    | none => .unusable

/-- Compares the time claims: not expired, and already valid, each with the leeway.

The sums are those of natural numbers. As long as the leeway is not above `now`, the expiry is
compared with `now - leeway` and the start with `now + leeway`, as in 64 bits. Under a greater leeway
that difference overflows in 64 bits, while here no token has expired. -/
def checkTimes (leeway now : Nat) (members : Json.Members) : Except TokenError Unit :=
  match reading seconds? members "exp", reading seconds? members "nbf" with
  | .value _, .unusable => .error (.invalidClaimFormat "nbf")
  | .value expiry, .absent => if expiry + leeway < now then .error .expiredSignature else .ok ()
  | .value expiry, .value start =>
    if expiry + leeway < now then .error .expiredSignature
    else if now + leeway < start then .error .immatureSignature
    else .ok ()
  | _, _ => .error (.missingRequiredClaim "exp")

def checkSubject (subject : Option String) (members : Json.Members) : Except TokenError Unit :=
  -- A subject that is absent or no text is passed over.
  match subject, reading Json.string? members "sub" with
  | some wanted, .value s => if s = wanted then .ok () else .error .invalidSubject
  | _, _ => .ok ()

/-- Compares a claim that may name several texts; one common text is enough. -/
def checkTexts (allowed : Option (List String)) (error : TokenError) (key : String)
    (members : Json.Members) : Except TokenError Unit :=
  match allowed, reading texts? members key with
  | some names, .value items => if items.any names.contains then .ok () else .error error
  | _, _ => .ok ()

def check (policy : Policy) (subject : Option String) (now : Nat) (members : Json.Members) :
    Except TokenError Unit := do
  -- The reader fails before anything is compared.
  if isReadable members then .ok () else .error .json
  checkTimes policy.leeway.toNat now members
  checkSubject subject members
  checkTexts policy.issuers .invalidIssuer "iss" members
  checkTexts policy.audiences .invalidAudience "aud" members

end Registered

end BearerAuth
