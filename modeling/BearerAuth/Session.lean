import BearerAuth.Credentials

/-!
# Authentication sessions

A session authenticates requests one after the other: it takes the token from the headers, decodes
it, verifies the payload and keeps it. A failed attempt leaves no payload. Every hook hears of it,
in order; then a raising session returns the rejection and a recording session keeps it.

Decoder, verifier and hooks act on surroundings of any type `σ`, which every step hands on. So the
surroundings after a run tell who was called, in which order and with what.
-/

namespace BearerAuth

/-- What sessions share. -/
structure Authenticator (σ π : Type) where
  /-- Turns a token into a payload. -/
  decode : σ → BearerToken → σ × Except AuthError π
  /-- Accepts or refuses a decoded token. -/
  verify : σ → BearerToken → π → σ × Except AuthError Unit
  /-- Whether a failed attempt is returned rather than recorded. -/
  raises : Bool
  /-- Hear of every failed attempt. -/
  hooks : List (σ → Rejection → σ)

structure Session (π : Type) where
  /-- The payload of the latest attempt, if it succeeded and has not been taken. -/
  payload : Option π
  /-- The recorded rejections. -/
  errors : List Rejection
  deriving DecidableEq, Repr

namespace Authenticator

variable {σ π : Type}

def check (a : Authenticator σ π) (world : σ) (token : BearerToken) : σ × Except AuthError π :=
  match a.decode world token with
  | (world, .error e) => (world, .error e)
  | (world, .ok payload) =>
    match a.verify world token payload with
    | (world, .error e) => (world, .error e)
    | (world, .ok ()) => (world, .ok payload)

/-- One attempt: the token of the headers, decoded and verified. -/
def attempt (a : Authenticator σ π) (world : σ) (headers : List Header) : σ × Except AuthError π :=
  match Credentials.token headers with
  | .error e => (world, .error e)
  | .ok token => a.check world token

def notify (a : Authenticator σ π) (world : σ) (r : Rejection) : σ :=
  a.hooks.foldl (fun world hook => hook world r) world

def describe (a : Authenticator σ π) : String :=
  "JwtAuthenticator \x7b raise_exception: " ++ toString a.raises ++ ", hooks: " ++
    toString a.hooks.length ++ ", .. \x7d"

end Authenticator

namespace Session

variable {σ π : Type}

def start : Session π :=
  ⟨none, []⟩

def hasErrors (s : Session π) : Bool :=
  !s.errors.isEmpty

def authenticate (s : Session π) (a : Authenticator σ π) (world : σ) (headers : List Header) :
    σ × Session π × Except Rejection Unit :=
  match a.attempt world headers with
  | (world, .ok payload) => (world, { s with payload := some payload }, .ok ())
  | (world, .error e) =>
    -- The hooks hear of the failure in either mode.
    let r := Rejection.ofError e
    let world := a.notify world r
    if a.raises then (world, { s with payload := none }, .error r)
    else (world, { payload := none, errors := s.errors ++ [r] }, .ok ())

def takePayload (s : Session π) : Session π × Option π :=
  ({ s with payload := none }, s.payload)

/-- A session without recorded rejections in one line. -/
def describe (s : Session π) (a : Authenticator σ π) : String :=
  "JwtAuthenticationService \x7b raise_exception: " ++ toString a.raises ++ ", hooks: " ++
    toString a.hooks.length ++ ", authenticated: " ++ toString s.payload.isSome ++
    ", errors: [], .. \x7d"

end Session

end BearerAuth
