import BearerAuth.KeyStore

/-!
# Looking keys up

A key set answers with its first key under a key id, and denies the key id exactly when no key has
it. A set with several keys under one key id behaves as if it had the first of them only.
-/

namespace BearerAuth.JwkSet

variable {set : JwkSet} {kid : String} {jwk : Jwk} {e : KeyStoreError}

/-- The set has a key with this key id, and no key before it has the same. -/
def HasFirst (set : JwkSet) (kid : String) (jwk : Jwk) : Prop :=
  jwk.kid = some kid ∧
    ∃ before after, set.keys = before ++ jwk :: after ∧ ∀ other ∈ before, other.kid ≠ some kid

/-- Some key of the set has this key id. -/
def HasKeyId (set : JwkSet) (kid : String) : Prop :=
  ∃ jwk ∈ set.keys, jwk.kid = some kid

theorem find?_eq_some_iff : set.find? kid = some jwk ↔ set.HasFirst kid jwk := by
  simp [find?, HasFirst, List.find?_eq_some_iff_append]

theorem find?_eq_none_iff : set.find? kid = none ↔ ¬set.HasKeyId kid := by
  simp [find?, HasKeyId]

theorem lookup_eq_ok_iff : set.lookup kid = .ok jwk ↔ set.HasFirst kid jwk := by
  rw [← find?_eq_some_iff]
  unfold lookup
  cases set.find? kid with
  | none => simp
  | some found => simp

theorem lookup_eq_error_iff :
    set.lookup kid = .error e ↔ ¬set.HasKeyId kid ∧ e = .keyNotFound kid := by
  rw [← find?_eq_none_iff]
  unfold lookup
  cases set.find? kid with
  | none => simp [eq_comm]
  | some found => simp

end BearerAuth.JwkSet
