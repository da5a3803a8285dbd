import BearerAuth.Jwk.Basic

/-!
# Sets of JSON Web Keys

A set is an object with the list of its keys under `keys`, or an array that holds nothing but that
list. One unreadable key makes the whole set unreadable. Looking a key up takes the first one with
the key id asked for; keys without a key id are never found.
-/

namespace BearerAuth

/-- A set of keys, in order. -/
structure JwkSet where
  keys : List Jwk
  deriving DecidableEq, Repr

namespace JwkSet

def empty : JwkSet := ⟨[]⟩

/-- The first key with the given key id. -/
def find? (set : JwkSet) (kid : String) : Option Jwk :=
  set.keys.find? fun key => key.kid == some kid

def keys? : Json → Option (List Jwk)
  | .arr items => items.mapM Jwk.ofJson?
  | _ => none

def ofJson? : Json → Option JwkSet
  | .obj members => (Json.Members.required? keys? members "keys").map JwkSet.mk
  | .arr [v] => (keys? v).map JwkSet.mk
  | _ => none

def toJson (set : JwkSet) : Json :=
  .obj [("keys", .arr (set.keys.map Jwk.toJson))]

end JwkSet

end BearerAuth
