import BearerAuth.Jwk.Set

/-!
# Key stores

A key store holds the current set of keys and replaces it as a whole. A store has to be able to list
the set and to install a new one; looking a key up goes through the list, unless the store brings a
lookup of its own. What a store remembers is a value of its state type.

Every installation of a set gets a number of its own, so that two listings can be told apart even
when they hold equal keys.
-/

namespace BearerAuth

inductive KeyStoreError where
  /-- No key of the set has the key id. -/
  | keyNotFound (kid : String)
  /-- The store cannot be reached. -/
  | unavailable (reason : String)
  deriving DecidableEq, Repr

def KeyStoreError.message : KeyStoreError → String
  | keyNotFound kid => "Key ID '" ++ kid ++ "' not found in JWKS"
  | unavailable reason => "Key store unavailable: " ++ reason

/-- A key set as a store hands it out. -/
structure InstalledSet where
  set : JwkSet
  /-- Number of the installation. -/
  number : Nat
  deriving DecidableEq, Repr

def JwkSet.lookup (set : JwkSet) (kid : String) : Except KeyStoreError Jwk :=
  match set.find? kid with
  | some key => .ok key
  | none => .error (.keyNotFound kid)

/-- Looks a key up in whatever set a listing returns. -/
def lookupListed (listed : Except KeyStoreError InstalledSet) (kid : String) :
    Except KeyStoreError Jwk :=
  listed >>= fun installed => installed.set.lookup kid

/-- The operations of a key store whose state has the type `σ`. -/
structure KeyStore (σ : Type) where
  list : σ → Except KeyStoreError InstalledSet
  install : σ → JwkSet → σ × Except KeyStoreError Unit
  /-- The key with a given key id; stores that say nothing else look it up in the listed set. -/
  get : σ → String → Except KeyStoreError Jwk := fun state kid => lookupListed (list state) kid

namespace KeyStore

/-- A store in memory. Its state is the set that was installed last. -/
def memory : KeyStore InstalledSet where
  list state := .ok state
  install state set := (⟨set, state.number + 1⟩, .ok ())
  get state kid := state.set.lookup kid

/-- A store with a set that cannot be replaced. -/
def fixed (set : JwkSet) : KeyStore Unit where
  list _ := .ok ⟨set, 0⟩
  install state _ := (state, .error (.unavailable "read-only"))

def unreachable (reason : String) : KeyStore Unit where
  list _ := .error (.unavailable reason)
  install state _ := (state, .error (.unavailable reason))

end KeyStore

def InstalledSet.initial (set : JwkSet) : InstalledSet :=
  ⟨set, 0⟩

end BearerAuth
