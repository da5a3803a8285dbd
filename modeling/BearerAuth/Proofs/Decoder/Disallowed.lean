import BearerAuth.Proofs.Decoder.Failure

/-!
# Tokens under algorithms that are not allowed

A token that names an algorithm outside the policy is never decoded. What is said about it depends
on the store all the same, because its key is resolved before its algorithm is looked at: the
algorithm is the reason that is given only where the store has a usable key for the token, and any
trouble with the key hides it.
-/

namespace BearerAuth

namespace SignedToken

/-- The header of a token can be read, and has a key id and an algorithm that the policy does not
allow. -/
def Disallowed (policy : Policy) (token kid : String) : Prop :=
  ∃ parts header, TokenHeader.ofToken token = .ok (parts, header) ∧ header.kid = some kid ∧
    header.algorithm ∉ policy.algorithms

variable {policy : Policy} {subject : Option String} {now : Nat} {key : VerifyingKey}
  {token kid : String}

/-- Whatever the key is, an algorithm that is not allowed is refused before anything else in the
token is looked at. -/
theorem Disallowed.claims_eq (h : Disallowed policy token kid) :
    claims policy subject now key token = .error .invalidAlgorithm := by
  rcases h with ⟨parts, header, htoken, _, hdisallowed⟩
  have hrefused : checkSignature policy key parts header = .error .invalidAlgorithm := by
    simp [checkSignature, Policy.allows, hdisallowed]
  simp [claims, htoken, hrefused, bind, Except.bind]

theorem Disallowed.keyId_eq (h : Disallowed policy token kid) : Decoder.keyId token = .ok kid := by
  rcases h with ⟨parts, header, htoken, hkid, _⟩
  exact Decoder.keyId_eq_ok_iff.2 (keyId_eq_ok_iff.2 ⟨parts, header, htoken, hkid⟩)

end SignedToken

namespace Decoder

open SignedToken (Disallowed)

variable {d : Decoder} {π : Type} {read : Json.Members → Except Cause π}
  {lookup : String → Except KeyStoreError Jwk} {now : Nat} {token kid : String}

/-- The key comes first, and only where there is one the algorithm is refused. -/
theorem decode_of_disallowed (h : Disallowed d.policy token kid) :
    d.decode read lookup now token =
      resolveKey lookup kid >>= fun _ => .error (refuse .invalidAlgorithm) := by
  have hclaims : ∀ key, d.claims now key token = .error (refuse .invalidAlgorithm) :=
    fun key => claims_eq_error_iff.2 ⟨.invalidAlgorithm, h.claims_eq, rfl⟩
  rw [decode, h.keyId_eq]
  simp only [hclaims]
  rfl

theorem decode_of_disallowed_eq_error_iff (h : Disallowed d.policy token kid) {e : AuthError} :
    d.decode read lookup now token = .error e ↔
      ((∃ k, lookup kid = .error k ∧ e = .keyResolution k) ∨
        ∃ jwk, lookup kid = .ok jwk ∧ VerifyingKey.ofJwk? jwk = none ∧ e = refuse .base64) ∨
      ∃ jwk key, lookup kid = .ok jwk ∧ VerifyingKey.ofJwk? jwk = some key ∧
        e = refuse .invalidAlgorithm := by
  rw [decode_of_disallowed h, bind_eq_error_iff, resolveKey_eq_error_iff]
  simp only [resolveKey_eq_ok_iff, Except.error.injEq]
  refine or_congr_right ?_
  constructor
  · rintro ⟨key, ⟨jwk, hjwk, hkey⟩, rfl⟩
    exact ⟨jwk, key, hjwk, hkey, rfl⟩
  · rintro ⟨jwk, key, hjwk, hkey, rfl⟩
    exact ⟨key, ⟨jwk, hjwk, hkey⟩, rfl⟩

/-- A token under an algorithm that is not allowed is not decoded, whatever the store does. The
algorithm is reported exactly where the store has a key for the token that can be used; otherwise
the error is that of the store, or that of the material of the key. -/
theorem disallowed_algorithm_reported_iff (h : Disallowed d.policy token kid)
    (read : Json.Members → Except Cause π) (lookup : String → Except KeyStoreError Jwk)
    (now : Nat) :
    let decoded := d.decode read lookup now token
    (decoded = .error (.invalidToken decodeFailed (some (.token .invalidAlgorithm))) ↔
        ∃ jwk key, lookup kid = .ok jwk ∧ VerifyingKey.ofJwk? jwk = some key) ∧
      (∀ k, decoded = .error (.keyResolution k) ↔ lookup kid = .error k) ∧
      (decoded = .error (.invalidToken decodeFailed (some (.token .base64))) ↔
        ∃ jwk, lookup kid = .ok jwk ∧ VerifyingKey.ofJwk? jwk = none) ∧
      ∀ payload, decoded ≠ .ok payload := by
  intro decoded
  have herror : ∀ e, decoded = .error e ↔ _ := fun e => decode_of_disallowed_eq_error_iff h
  refine ⟨?_, ?_, ?_, ?_⟩
  · rw [herror]
    simp [refuse]
  · intro k
    rw [herror]
    simp [refuse]
  · rw [herror]
    simp [refuse]
  · intro payload hpayload
    rcases bind_eq_ok_iff.1 ((decode_of_disallowed h).symm.trans hpayload) with ⟨_, _, ⟨⟩⟩

end Decoder

namespace Sample

/-- A decoder whose policy does not allow the algorithm of the sample tokens. -/
def narrowDecoder : Decoder :=
  ⟨⟨"a", [.RS256], none, none, 0⟩, none⟩

/-- The sample key, with material that is not base64. -/
def spoiledJwk : Jwk :=
  { jwk with parameters := .octetPair .ed25519 "!" }

theorem disallowed_token : SignedToken.Disallowed narrowDecoder.policy token "k" :=
  ⟨parts, ⟨.EdDSA, some "k"⟩, header_of_token, rfl, by decide⟩

end Sample

namespace Decoder

/-- With a usable key in the store, the algorithm is what is wrong with the sample token. -/
theorem sample_algorithm_reported :
    SignedToken.Disallowed Sample.narrowDecoder.policy Sample.token "k" ∧
      Sample.narrowDecoder.decode payload Sample.keys.lookup Sample.now Sample.token =
        .error (.invalidToken decodeFailed (some (.token .invalidAlgorithm))) := by
  obtain ⟨hreported, _⟩ := disallowed_algorithm_reported_iff Sample.disallowed_token payload
    Sample.keys.lookup Sample.now
  exact ⟨Sample.disallowed_token,
    hreported.2 ⟨Sample.jwk, Sample.key, by decide, by decide +kernel⟩⟩

/-- Without a key, or with one that cannot be used, nothing is said about the algorithm of the
sample token. -/
theorem key_trouble_hides_algorithm :
    SignedToken.Disallowed Sample.narrowDecoder.policy Sample.token "k" ∧
      Sample.narrowDecoder.decode payload (JwkSet.mk []).lookup Sample.now Sample.token =
        .error (.keyResolution (.keyNotFound "k")) ∧
      Sample.narrowDecoder.decode payload (JwkSet.mk [Sample.spoiledJwk]).lookup Sample.now
          Sample.token =
        .error (.invalidToken decodeFailed (some (.token .base64))) := by
  have habsent : (JwkSet.mk []).lookup "k" = .error (.keyNotFound "k") := rfl
  have hfound : (JwkSet.mk [Sample.spoiledJwk]).lookup "k" = .ok Sample.spoiledJwk := by decide
  have hspoiled : VerifyingKey.ofJwk? Sample.spoiledJwk = none := by decide +kernel
  exact ⟨Sample.disallowed_token,
    (decode_of_disallowed_eq_error_iff Sample.disallowed_token).2 (.inl (.inl ⟨_, habsent, rfl⟩)),
    (decode_of_disallowed_eq_error_iff Sample.disallowed_token).2
      (.inl (.inr ⟨_, hfound, hspoiled, rfl⟩))⟩

end Decoder

end BearerAuth
