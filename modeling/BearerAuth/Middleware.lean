import BearerAuth.Session

/-!
# Middleware

The middleware stands before an inner service. A request for a bypass path goes straight through.
Any other request is authenticated in a session of its own; it reaches the inner service with the
payload, or without one when the failure was only recorded, and a raised failure answers it.
-/

namespace BearerAuth

structure Request (β : Type) where
  path : String
  headers : List Header
  body : β
  deriving DecidableEq, Repr

/-- A service that answers a request, for which a payload may have been found. -/
abbrev Service (σ π β ε ρ : Type) :=
  σ → Request β → Option π → σ × Except ε ρ

/-- An authenticator with the paths that it does not guard. -/
structure Middleware (σ π : Type) where
  /-- Guards every other path. -/
  authenticator : Authenticator σ π
  /-- Paths that need no authentication. -/
  bypass : List String

namespace Middleware

variable {σ π β ε ρ : Type}

def isBypassed (m : Middleware σ π) (path : String) : Bool :=
  m.bypass.contains path

/-- Answers a request. A raised rejection becomes an error of the service. -/
def call (m : Middleware σ π) (service : Service σ π β ε ρ) (raise : Rejection → ε) (world : σ)
    (request : Request β) : σ × Except ε ρ :=
  if m.isBypassed request.path then service world request none
  else
    match Session.start.authenticate m.authenticator world request.headers with
    | (world, _, .error r) => (world, .error (raise r))
    -- A recorded failure goes on as well, without a payload.
    | (world, session, .ok ()) => service world request session.takePayload.2

def run (m : Middleware σ π) (service : Service σ π β ε ρ) (raise : Rejection → ε) (world : σ) :
    List (Request β) → σ × List (Except ε ρ)
  | [] => (world, [])
  | request :: rest =>
    let (world, answer) := m.call service raise world request
    let (world, answers) := run m service raise world rest
    (world, answer :: answers)

end Middleware

end BearerAuth
