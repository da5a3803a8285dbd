import BearerAuth.AuthError
import BearerAuth.Claims.Payload
import BearerAuth.Credentials
import BearerAuth.Http.Form
import BearerAuth.Http.Message
import BearerAuth.Introspection.Response
import BearerAuth.Policy.Display

/-!
# Token introspection

An introspection client asks an authorization server about a token. The verifier built on it refuses
a token unless the server says that it is active and, where subjects are compared, does not name
another subject.
-/

namespace BearerAuth

structure IntrospectionClient where
  endpoint : String
  clientId : String
  /-- The secret of the client, unless it is public. -/
  clientSecret : Option String
  deriving DecidableEq, Repr

namespace IntrospectionClient

/-- A client in one line, without its secret. -/
def describe (c : IntrospectionClient) : String :=
  "IntrospectionClient \x7b endpoint: " ++ Text.quoted c.endpoint ++ ", client_id: " ++
    Text.quoted c.clientId ++ ", client_secret: " ++
    describeOption (c.clientSecret.map fun _ => Text.quoted "[REDACTED]") ++ ", .. \x7d"

/-- The names and values that the endpoint is asked with. -/
def form (c : IntrospectionClient) (token : String) (hint : Option String) :
    List (String × String) :=
  [("token", token), ("client_id", c.clientId)] ++
    (c.clientSecret.toList.map fun s => ("client_secret", s)) ++
    hint.toList.map fun s => ("token_type_hint", s)

def request (c : IntrospectionClient) (token : String) (hint : Option String) : Http.Message where
  method := .post
  url := c.endpoint
  contentType := some Http.Form.contentType
  body := Text.Utf8.encode (Http.Form.encode (c.form token hint))

def interpret (r : Http.Response) : Except IntrospectionError IntrospectionResponse :=
  if !r.status.isSuccess then
    .error (.status r.status (Text.Utf8.decodeReplacing r.body))
  else
    match (Text.Utf8.decode? r.body).bind IntrospectionResponse.ofChars? with
    | some response => .ok response
    | none => .error .invalidResponse

def introspect (c : IntrospectionClient) (endpoint : Http.Endpoint) (token : String)
    (hint : Option String) : Except IntrospectionError IntrospectionResponse :=
  match endpoint (c.request token hint) with
  | none => .error .http
  | some r => interpret r

def accessTokenHint : String := "access_token"

def isActive (c : IntrospectionClient) (endpoint : Http.Endpoint) (token : String) :
    Except IntrospectionError Bool :=
  (c.introspect endpoint token (some accessTokenHint)).map IntrospectionResponse.active

end IntrospectionClient

structure IntrospectionVerifier where
  client : IntrospectionClient
  /-- Whether a subject in the response has to be that of the payload. -/
  checksSubject : Bool
  deriving DecidableEq, Repr

namespace IntrospectionVerifier

def inactiveText : String := "Token is not active"

def failedText : String := "Token introspection failed"

def subjectText : String := "Introspected subject does not match the token subject"

def judge (v : IntrospectionVerifier) (payload : Payload) (r : IntrospectionResponse) :
    Except AuthError Unit :=
  if !r.active then .error (.notVerified inactiveText none)
  else if v.checksSubject && r.sub.any (· ≠ payload.sub) then
    .error (.notVerified subjectText none)
  else .ok ()

def verify (v : IntrospectionVerifier) (endpoint : Http.Endpoint) (token : BearerToken)
    (payload : Payload) : Except AuthError Unit :=
  match v.client.introspect endpoint token.text (some IntrospectionClient.accessTokenHint) with
  | .error e => .error (.notVerified failedText (some (.introspection e)))
  | .ok r => v.judge payload r

end IntrospectionVerifier

end BearerAuth
