import BearerAuth.Proofs.Token.Header
import BearerAuth.Proofs.Token.Registered
import BearerAuth.Token.Signed

/-!
# What a checked token has passed

`SignedToken.Trusted` says what the check of a signature establishes, and `claims_eq_ok_iff` puts
the whole check of a token together from it and `Registered.Accepted`: the claims of a token are
handed out exactly when the header can be read, the signature is trusted, and the claims are
accepted. Only the last of these depends on the subject and on the lists of issuers and audiences.
-/

namespace BearerAuth

namespace SignedToken

variable {policy : Policy} {subject : Option String} {now : Nat} {key : VerifyingKey}
  {token : String} {parts : CompactToken} {header : TokenHeader} {members : Json.Members}

/-- The signature of a token with these parts and this header is valid under an algorithm that the
policy allows. -/
structure Trusted (policy : Policy) (key : VerifyingKey) (parts : CompactToken)
    (header : TokenHeader) : Prop where
  allowed : header.algorithm ∈ policy.algorithms
  /-- The key is of the kind that the algorithm works with. -/
  family_eq : key.family = header.algorithm.family
  /-- Under exactly that algorithm and the key, the signature part is a signature of the header and
  payload parts as they are written. -/
  verified : ∃ signature, Base64Url.decode? parts.signature = some signature ∧
    key.verify header.algorithm parts.signedBytes signature = true

theorem checkSignature_eq_ok_iff {u : Unit} :
    checkSignature policy key parts header = .ok u ↔ Trusted policy key parts header := by
  unfold checkSignature
  -- Each test that fails is an error, and it denies one field of the structure.
  by_cases hallowed : header.algorithm ∈ policy.algorithms
  · by_cases hfamily : key.family = header.algorithm.family
    · have htrusted : Trusted policy key parts header ↔
          ∃ signature, Base64Url.decode? parts.signature = some signature ∧
            key.verify header.algorithm parts.signedBytes signature = true :=
        ⟨fun h => h.verified, fun h => ⟨hallowed, hfamily, h⟩⟩
      rw [htrusted]
      cases Base64Url.decode? parts.signature with
      | none => simp [Policy.allows, hallowed, hfamily]
      | some signature => simp [Policy.allows, hallowed, hfamily]
    · have hno : ¬Trusted policy key parts header := fun h => hfamily h.family_eq
      simp [Policy.allows, hallowed, hfamily, hno]
  · have hno : ¬Trusted policy key parts header := fun h => hallowed h.allowed
    simp [Policy.allows, hallowed, hno]

theorem claimMembers_eq_ok_iff :
    claimMembers parts = .ok members ↔
      CompactToken.partJson parts.payload = .ok (.obj members) := by
  unfold claimMembers
  rw [bind_eq_ok_iff]
  constructor
  · rintro ⟨v, hv, h⟩
    cases v with
    | obj written =>
      cases h
      exact hv
    | _ => cases h
  · intro h
    exact ⟨_, h, rfl⟩

/-- The check of a token succeeds exactly when each of its stages does, and hands out the claims as
they are written, with repeated keys merged. -/
theorem claims_eq_ok_iff :
    claims policy subject now key token = .ok members ↔
      ∃ parts header written, TokenHeader.ofToken token = .ok (parts, header) ∧
        Trusted policy key parts header ∧
          CompactToken.partJson parts.payload = .ok (.obj written) ∧
            Registered.isReadable written = true ∧ members = Json.Members.mergedDeep written ∧
              Registered.Accepted policy subject now members := by
  unfold claims
  simp only [bind_eq_ok_iff, Prod.exists, checkSignature_eq_ok_iff, claimMembers_eq_ok_iff,
    Registered.check_eq_ok_iff, pure, Except.pure, Except.ok.injEq]
  constructor
  · rintro ⟨parts, header, htoken, _, htrusted, written, hwritten, _, ⟨hreadable, haccepted⟩, rfl⟩
    exact ⟨parts, header, written, htoken, htrusted, hwritten, hreadable, rfl,
      (Registered.accepted_mergedDeep_iff hreadable).2 haccepted⟩
  · rintro ⟨parts, header, written, htoken, htrusted, hwritten, hreadable, rfl, haccepted⟩
    exact ⟨parts, header, htoken, (), htrusted, written, hwritten, (),
      ⟨hreadable, (Registered.accepted_mergedDeep_iff hreadable).1 haccepted⟩, rfl⟩

theorem accepted_of_claims (h : claims policy subject now key token = .ok members) :
    Registered.Accepted policy subject now members := by
  rcases claims_eq_ok_iff.1 h with ⟨_, _, _, _, _, _, _, _, haccepted⟩
  exact haccepted

/-- What the claims of a token are does not depend on what it is checked against. -/
theorem claims_inj {policy' : Policy} {subject' : Option String} {key' : VerifyingKey}
    {members' : Json.Members} (h : claims policy subject now key token = .ok members)
    (h' : claims policy' subject' now key' token = .ok members') : members' = members := by
  rcases claims_eq_ok_iff.1 h with ⟨parts, header, written, htoken, _, hwritten, _, rfl, _⟩
  -- Both checks read the same text, so they see the same parts and the same members.
  rcases claims_eq_ok_iff.1 h' with ⟨parts', header', written', htoken', _, hwritten', _, rfl, _⟩
  obtain ⟨rfl, rfl⟩ : parts' = parts ∧ header' = header := by
    simpa using htoken'.symm.trans htoken
  have hsame : written' = written := by simpa using hwritten'.symm.trans hwritten
  rw [hsame]

/-- Once a token has been checked, a policy with the same algorithms passes it exactly when it
accepts its claims. -/
theorem claims_eq_ok_iff_accepted {policy' : Policy} {subject' : Option String}
    (h : claims policy subject now key token = .ok members)
    (halgorithms : policy'.algorithms = policy.algorithms) :
    claims policy' subject' now key token = .ok members ↔
      Registered.Accepted policy' subject' now members := by
  constructor
  · exact accepted_of_claims
  · intro haccepted
    obtain ⟨parts, header, written, htoken, htrusted, hwritten, hreadable, hmembers, _⟩ :=
      claims_eq_ok_iff.1 h
    have htrusted' : Trusted policy' key parts header :=
      ⟨halgorithms ▸ htrusted.allowed, htrusted.family_eq, htrusted.verified⟩
    exact claims_eq_ok_iff.2
      ⟨parts, header, written, htoken, htrusted', hwritten, hreadable, hmembers, haccepted⟩

/-- The key id of a token is the one in its header. -/
theorem keyId_eq_ok_iff {kid : String} :
    keyId token = .ok kid ↔
      ∃ parts header, TokenHeader.ofToken token = .ok (parts, header) ∧
        header.kid = some kid := by
  unfold keyId
  cases TokenHeader.ofToken token with
  | error e => simp
  | ok found =>
    rcases found with ⟨parts, header⟩
    cases hkid : header.kid with
    | none => simp [hkid]
    | some kid' => simp [hkid]

end SignedToken

end BearerAuth
