import BearerAuth.Json.Field
import BearerAuth.Json.Parser
import BearerAuth.Number.Layout

/-!
# Introspection responses

A response says whether a token is active and what is known about it. Declared members may stand at
most once and `null` counts as absent; every other member is kept.
-/

namespace BearerAuth

/-- What an authorization server says about a token. -/
structure IntrospectionResponse where
  active : Bool
  scope : Option String
  clientId : Option String
  username : Option String
  tokenType : Option String
  /-- Expiry in Unix seconds. -/
  exp : Option Int
  sub : Option String
  iss : Option String
  /-- All other members. -/
  additional : Json.Members
  deriving Repr

namespace IntrospectionResponse

def declaredKeys : List String :=
  ["active", "scope", "client_id", "username", "token_type", "exp", "sub", "iss"]

def bool? : Json → Option Bool
  | .bool b => some b
  | _ => none

/-- Reads a signed integer of 64 bits. -/
def int64? : Json → Option Int
  | .num (.int n) => if n ≤ Number.maxInt64 then some n else none
  | _ => none

def ofJson? : Json → Option IntrospectionResponse
  | .obj members => do
    let text := fun key => Json.Members.optional? Json.string? members key
    return {
      active := ← Json.Members.required? bool? members "active"
      scope := ← text "scope"
      clientId := ← text "client_id"
      username := ← text "username"
      tokenType := ← text "token_type"
      exp := ← Json.Members.optional? int64? members "exp"
      sub := ← text "sub"
      iss := ← text "iss"
      additional := Json.Members.mergedDeep
        (members.filter fun m => !declaredKeys.contains m.1)
    }
  | _ => none

def ofChars? (cs : List Char) : Option IntrospectionResponse :=
  (Json.parse? cs).bind ofJson?

/-- A response as a JSON object; absent members are left out. -/
def toJson (r : IntrospectionResponse) : Json :=
  let text := fun key (s : Option String) => s.toList.map fun s => (key, Json.str s)
  .obj (("active", .bool r.active) :: (text "scope" r.scope ++ text "client_id" r.clientId ++
    text "username" r.username ++ text "token_type" r.tokenType ++
    (r.exp.toList.map fun n => ("exp", Json.ofInt n)) ++ text "sub" r.sub ++ text "iss" r.iss ++
    r.additional))

end IntrospectionResponse

end BearerAuth
