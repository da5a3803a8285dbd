import BearerAuth.Proofs.Decoder.Basic
import BearerAuth.Proofs.Policy.Provenance

/-!
# Tokens decode only under algorithms that the policy allows

A token chooses its algorithm itself, in a header that is read before anything has been checked. The
main statement here says that this choice cannot be abused: whichever way the policy came about and
whatever the store holds, a token that decodes has been verified under the algorithm that it names,
and that algorithm is one of the asymmetric ones that the policy lists.
-/

namespace BearerAuth

namespace SignedToken

variable {d : Decoder} {now : Nat} {key : VerifyingKey} {token kid : String}
  {parts : CompactToken} {header : TokenHeader} {members : Json.Members}

/-- A token stands on its own header and parts: these are the ones that its text has, and its
signature is trusted under the algorithm of that header, which is asymmetric. -/
structure Vouched (policy : Policy) (key : VerifyingKey) (token : String) (parts : CompactToken)
    (header : TokenHeader) : Prop where
  own : TokenHeader.ofToken token = .ok (parts, header)
  /-- The text of the token is these parts with dots between them. -/
  text : token.toList = parts.chars
  asymmetric : header.algorithm ∈ Algorithm.defaults
  /-- The algorithm is allowed and the signature is valid under exactly that algorithm. -/
  trusted : Trusted policy key parts header

/-- The header object of a token has `v` as a member `alg`. -/
def StatesAlgorithm (token : String) (v : Json) : Prop :=
  ∃ parts members, CompactToken.ofChars? token.toList = some parts ∧
    CompactToken.partJson parts.header = .ok (.obj members) ∧ ("alg", v) ∈ members

/-- What a token states is the name of the algorithm in its header. -/
theorem name?_of_statesAlgorithm {v : Json} (hv : StatesAlgorithm token v)
    (htoken : TokenHeader.ofToken token = .ok (parts, header)) :
    v.name? = some header.algorithm.name := by
  rcases hv with ⟨parts', members, hparts', hmembers, hmem⟩
  rcases TokenHeader.ofToken_eq_ok_iff.1 htoken with ⟨hparts, w, hw, hheader⟩
  have hsame : parts' = parts := Option.some.inj (hparts'.symm.trans hparts)
  have hobj : w = .obj members := by
    rw [hsame, hw] at hmembers
    exact Except.ok.inj hmembers
  exact TokenHeader.name?_of_mem (hobj ▸ hheader) hmem

/-- The claims of a token are handed out only for a signature under an allowed asymmetric
algorithm. -/
theorem exists_vouched_of_claims (hpolicy : d.policy.Obtainable)
    (h : d.claims now key token = .ok members) :
    ∃ parts header, Vouched d.policy key token parts header := by
  have hclaims := Decoder.claims_eq_ok_iff.1 h
  rcases claims_eq_ok_iff.1 hclaims with ⟨parts, header, _, htoken, htrusted, _⟩
  have hparts := (TokenHeader.ofToken_eq_ok_iff.1 htoken).1
  refine ⟨parts, header, htoken, (CompactToken.ofChars?_eq_some_iff.1 hparts).1, ?_, htrusted⟩
  exact Algorithm.mem_defaults_iff.2 (hpolicy.isAsymmetric htrusted.allowed)

end SignedToken

namespace Decoder

variable {d : Decoder} {now : Nat} {token : String}

/-- A token is decoded with no key and with no store, whatever reads its payload. -/
def Refuses (d : Decoder) (now : Nat) (token : String) : Prop :=
  (∀ key members, d.claims now key token ≠ .ok members) ∧
    ∀ {π : Type} (read : Json.Members → Except Cause π) (lookup : String → Except KeyStoreError Jwk)
      (payload : π), d.decode read lookup now token ≠ .ok payload

/-- Decoding goes through the claims, so a token whose claims are never handed out is refused. -/
theorem refuses_of_claims (h : ∀ key members, d.claims now key token ≠ .ok members) :
    d.Refuses now token := by
  refine ⟨h, ?_⟩
  intro π read lookup payload hdecode
  rcases decode_eq_ok_iff.1 hdecode with ⟨_, _, key, members, _, _, _, hmembers, _⟩
  exact h key members hmembers

/-- Under a policy that can be made at all, a token is verified under the algorithm that its own
header names, with the key that the store has for its own key id, and that algorithm is asymmetric
and allowed. So a token that states any other algorithm is refused, and a policy without algorithms
refuses every token. -/
theorem decodes_only_under_allowed_algorithm (hpolicy : d.policy.Obtainable) (now : Nat)
    (token : String) :
    (∀ key members, d.claims now key token = .ok members →
      ∃ parts header, SignedToken.Vouched d.policy key token parts header) ∧
    (∀ {π : Type} (read : Json.Members → Except Cause π)
      (lookup : String → Except KeyStoreError Jwk) (payload : π),
      d.decode read lookup now token = .ok payload →
        ∃ parts header kid jwk key, SignedToken.Vouched d.policy key token parts header ∧
          header.kid = some kid ∧ lookup kid = .ok jwk ∧ VerifyingKey.ofJwk? jwk = some key) ∧
    (∀ v, SignedToken.StatesAlgorithm token v → (∀ a ∈ Algorithm.defaults, v.name? ≠ some a.name) →
      d.Refuses now token) ∧
    (d.policy.algorithms = [] → d.Refuses now token) := by
  refine ⟨fun key members => SignedToken.exists_vouched_of_claims hpolicy, ?_, ?_, ?_⟩
  · intro π read lookup payload hdecode
    rcases decode_eq_ok_iff.1 hdecode with ⟨kid, jwk, key, members, hkid, hjwk, hkey, hmembers, _⟩
    rcases SignedToken.exists_vouched_of_claims hpolicy hmembers with ⟨parts, header, hvouched⟩
    -- Key id and algorithm are read separately, but out of the same header.
    rcases SignedToken.keyId_eq_ok_iff.1 hkid with ⟨parts', header', hown, hkid⟩
    obtain ⟨rfl, rfl⟩ : parts' = parts ∧ header' = header := by
      simpa using hown.symm.trans hvouched.own
    exact ⟨parts', header', kid, jwk, key, hvouched, hkid, hjwk, hkey⟩
  · intro v hv hname
    refine refuses_of_claims fun key members hmembers => ?_
    rcases SignedToken.exists_vouched_of_claims hpolicy hmembers with ⟨parts, header, hvouched⟩
    have hstated := SignedToken.name?_of_statesAlgorithm hv hvouched.own
    exact hname header.algorithm hvouched.asymmetric hstated
  · intro hempty
    refine refuses_of_claims fun key members hmembers => ?_
    rcases SignedToken.exists_vouched_of_claims hpolicy hmembers with ⟨parts, header, hvouched⟩
    have hallowed := hvouched.trusted.allowed
    simp [hempty] at hallowed

/-- The sample policy comes from a draft, and the sample token is vouched for under it. -/
theorem sample_token_vouched :
    Sample.policy.Obtainable ∧
      Sample.decoder.decode payload Sample.keys.lookup Sample.now Sample.token =
        .ok Sample.payload ∧
      ∃ parts header kid jwk key,
        SignedToken.Vouched Sample.policy key Sample.token parts header ∧
          header.kid = some kid ∧ Sample.keys.lookup kid = .ok jwk ∧
            VerifyingKey.ofJwk? jwk = some key := by
  have hpolicy : Sample.decoder.policy.Obtainable :=
    .built "a" [.audiences (.list ["a"]), .issuers (.text "i"), .leeway 60] (by decide +kernel)
  refine ⟨hpolicy, Sample.decode_token, ?_⟩
  obtain ⟨_, hdecoded, _⟩ :=
    decodes_only_under_allowed_algorithm hpolicy Sample.now Sample.token
  exact hdecoded payload Sample.keys.lookup Sample.payload Sample.decode_token

end Decoder

end BearerAuth
