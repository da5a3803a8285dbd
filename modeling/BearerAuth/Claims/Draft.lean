import BearerAuth.Claims.Payload

/-!
# Payloads built field by field

A draft collects the fields of a payload in any order, and a later value for a field replaces an
earlier one. Completing a draft applies the checks of a claims object in the same order.
-/

namespace BearerAuth

/-- The fields of a payload that have been given. -/
structure PayloadDraft where
  /-- Scopes, as a string of words or a list. -/
  scope : Option Json
  /-- Audiences, as a string of words or a list. -/
  aud : Option Json
  iss : Option String
  exp : Option TimestampInput
  /-- Time of issue. -/
  iat : Option TimestampInput
  /-- Start of validity. -/
  nbf : Option TimestampInput
  sub : Option String
  deriving Repr

/-- A field of a payload with the value given for it. -/
inductive PayloadField where
  | scope (v : Json)
  | aud (v : Json)
  | iss (s : String)
  | exp (t : TimestampInput)
  | iat (t : TimestampInput)
  | nbf (t : TimestampInput)
  | sub (s : String)
  deriving Repr

namespace PayloadDraft

def empty : PayloadDraft :=
  ⟨none, none, none, none, none, none, none⟩

def set (d : PayloadDraft) : PayloadField → PayloadDraft
  | .scope v => { d with scope := some v }
  | .aud v => { d with aud := some v }
  | .iss s => { d with iss := some s }
  | .exp t => { d with exp := some t }
  | .iat t => { d with iat := some t }
  | .nbf t => { d with nbf := some t }
  | .sub s => { d with sub := some s }

def ofFields (fields : List PayloadField) : PayloadDraft :=
  fields.foldl set empty

/-- A list of texts that has to be given. -/
def list (name : ClaimName) (v : Option Json) : Except ClaimsError (List String) :=
  Claims.present name v >>= fun v => Claims.about name (Claims.stringList v)

def instant (name : ClaimName) (t : Option TimestampInput) : Except ClaimsError Instant :=
  Claims.present name t >>= fun t => Claims.about name (Claims.timestamp t)

def build (d : PayloadDraft) : Except ClaimsError Payload := do
  let scope ← list .scope d.scope
  let aud ← list .aud d.aud
  let iss ← Claims.present .iss d.iss
  let exp ← instant .exp d.exp
  let iat ← instant .iat d.iat
  let nbf ← instant .nbf d.nbf
  let sub ← Claims.present .sub d.sub
  return ⟨scope, aud, iss, exp, iat, nbf, sub⟩

end PayloadDraft

end BearerAuth
