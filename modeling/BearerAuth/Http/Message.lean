import BearerAuth.Http.Status

/-!
# Requests to endpoints

What a client sends to an endpoint and what it gets back. An endpoint is a function: it responds to
a request or it does not.
-/

namespace BearerAuth.Http

inductive Method where
  | get
  | post
  deriving DecidableEq, Repr

structure Message where
  method : Method
  url : String
  contentType : Option String
  body : List UInt8
  deriving DecidableEq, Repr

structure Response where
  status : Status
  body : List UInt8
  deriving DecidableEq, Repr

/-- What an endpoint does with a request; nothing stands for a connection without a response. -/
abbrev Endpoint := Message → Option Response

end BearerAuth.Http
