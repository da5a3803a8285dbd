import BearerAuth.AuthError
import BearerAuth.Jwk.Basic
import BearerAuth.Json.Parser
import BearerAuth.Token.Compact

/-!
# Token headers

The header of a token is a JSON object with declared members, each at most once. The algorithm is
required; every member that is not declared has to be a string.
-/

namespace BearerAuth

/-- What a token says about its signature. -/
structure TokenHeader where
  algorithm : Algorithm
  kid : Option String
  deriving DecidableEq, Repr

/-- The JSON value in a part of a token. -/
def CompactToken.partJson (part : List Char) : Except TokenError Json :=
  match Base64Url.decode? part with
  | none => .error .base64
  | some bytes =>
    match (Text.Utf8.decode? bytes).bind Json.parse? with
    | none => .error .json
    | some v => .ok v

namespace TokenHeader

def textKeys : List String :=
  ["typ", "cty", "jku", "kid", "x5u", "x5t", "x5t#S256", "url", "nonce", "enc", "zip"]

/-- Members that hold a list of texts. -/
def listKeys : List String :=
  ["x5c", "crit"]

def declaredKeys : List String :=
  "alg" :: "jwk" :: (textKeys ++ listKeys)

def algorithm? (v : Json) : Option Algorithm :=
  v.name?.bind Algorithm.ofName?

/-- Whether every declared member other than the algorithm can be read, and all others are
strings. -/
def isReadable (members : Json.Members) : Bool :=
  textKeys.all (fun key => (Json.Members.optional? Json.string? members key).isSome) &&
    listKeys.all (fun key => (Json.Members.optional? Json.strings? members key).isSome) &&
    (Json.Members.optional? Jwk.ofJson? members "jwk").isSome &&
    members.all fun m => declaredKeys.contains m.1 || m.2.string?.isSome

def ofJson? : Json → Option TokenHeader
  | .obj members => do
    let algorithm ← Json.Members.required? algorithm? members "alg"
    let kid ← Json.Members.optional? Json.string? members "kid"
    if isReadable members then some ⟨algorithm, kid⟩ else none
  | _ => none

def ofPart (part : List Char) : Except TokenError TokenHeader :=
  CompactToken.partJson part >>= fun v =>
    match ofJson? v with
    | some header => .ok header
    | none => .error .json

/-- The header of a token, together with its parts. -/
def ofToken (token : String) : Except TokenError (CompactToken × TokenHeader) :=
  match CompactToken.ofChars? token.toList with
  | none => .error .invalidToken
  | some parts => (ofPart parts.header).map fun header => (parts, header)

end TokenHeader

end BearerAuth
