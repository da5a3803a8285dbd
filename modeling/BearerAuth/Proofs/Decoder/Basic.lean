import BearerAuth.Decoder
import BearerAuth.Proofs.Claims.Payload
import BearerAuth.Proofs.Json.Equality
import BearerAuth.Proofs.Token.Signed

/-!
# When decoding succeeds

Decoding is a chain of four stages, and `decode_eq_ok_iff` says what each of them contributed to a
payload that has been handed out; `decode_ofList_chars` goes the other way and decodes a token from
what its stages give. The readers of payloads see the claims that the reader of raw claims hands
out, whatever they make of them.
-/

namespace BearerAuth

namespace Decoder

variable {d : Decoder} {π : Type} {read : Json.Members → Except Cause π}
  {lookup : String → Except KeyStoreError Jwk} {now : Nat} {key : VerifyingKey} {token kid : String}
  {members : Json.Members} {payload : π}

theorem keyId_eq_ok_iff : keyId token = .ok kid ↔ SignedToken.keyId token = .ok kid := by
  unfold keyId
  cases SignedToken.keyId token with
  | error cause => simp
  | ok kid' => simp

theorem claims_eq_ok_iff :
    d.claims now key token = .ok members ↔
      SignedToken.claims d.policy d.subject now key token = .ok members := by
  unfold claims
  cases SignedToken.claims d.policy d.subject now key token with
  | error e => simp
  | ok found => simp

theorem resolveKey_eq_ok_iff :
    resolveKey lookup kid = .ok key ↔
      ∃ jwk, lookup kid = .ok jwk ∧ VerifyingKey.ofJwk? jwk = some key := by
  unfold resolveKey
  cases lookup kid with
  | error e => simp
  | ok jwk => cases h : VerifyingKey.ofJwk? jwk with
    | none => simp [h]
    | some key' => simp [h]

theorem readPayload_eq_ok_iff :
    readPayload read members = .ok payload ↔ read members = .ok payload := by
  unfold readPayload
  cases read members with
  | error cause => simp
  | ok found => simp

/-- A payload is handed out exactly when the store has a usable key for the key id of the token, the
token passes its check with that key, and the reader accepts its claims. -/
theorem decode_eq_ok_iff :
    d.decode read lookup now token = .ok payload ↔
      ∃ kid jwk key members, SignedToken.keyId token = .ok kid ∧ lookup kid = .ok jwk ∧
        VerifyingKey.ofJwk? jwk = some key ∧ d.claims now key token = .ok members ∧
          read members = .ok payload := by
  unfold decode
  simp only [bind_eq_ok_iff, keyId_eq_ok_iff, resolveKey_eq_ok_iff, readPayload_eq_ok_iff]
  constructor
  · rintro ⟨kid, hkid, key, ⟨jwk, hjwk, hkey⟩, members, hmembers, hpayload⟩
    exact ⟨kid, jwk, key, members, hkid, hjwk, hkey, hmembers, hpayload⟩
  · rintro ⟨kid, jwk, key, members, hkid, hjwk, hkey, hmembers, hpayload⟩
    exact ⟨kid, hkid, key, ⟨jwk, hjwk, hkey⟩, members, hmembers, hpayload⟩

/-- The reader of raw claims hands out exactly the claims of the token. -/
theorem decode_rawClaims_eq_ok_iff :
    d.decode rawClaims lookup now token = .ok members ↔
      ∃ kid jwk key, SignedToken.keyId token = .ok kid ∧ lookup kid = .ok jwk ∧
        VerifyingKey.ofJwk? jwk = some key ∧
          SignedToken.claims d.policy d.subject now key token = .ok members := by
  rw [decode_eq_ok_iff]
  simp only [rawClaims, Except.ok.injEq, claims_eq_ok_iff]
  constructor
  · rintro ⟨kid, jwk, key, _, hkid, hjwk, hkey, hclaims, rfl⟩
    exact ⟨kid, jwk, key, hkid, hjwk, hkey, hclaims⟩
  · rintro ⟨kid, jwk, key, hkid, hjwk, hkey, hclaims⟩
    exact ⟨kid, jwk, key, _, hkid, hjwk, hkey, hclaims, rfl⟩

/-- A reader of payloads is handed the claims that the reader of raw claims hands out. -/
theorem decode_eq_bind_rawClaims :
    d.decode read lookup now token = d.decode rawClaims lookup now token >>= readPayload read := by
  have hread : ∀ members, readPayload rawClaims members >>= readPayload read =
      readPayload read members := fun _ => rfl
  simp only [decode, bind_assoc, hread]

/-- Every reader of payloads sees the claims that the reader of raw claims hands out. -/
theorem decode_eq_ok_iff_rawClaims :
    d.decode read lookup now token = .ok payload ↔
      ∃ members, d.decode rawClaims lookup now token = .ok members ∧
        read members = .ok payload := by
  rw [decode_eq_bind_rawClaims, bind_eq_ok_iff]
  simp only [readPayload_eq_ok_iff]

/-- The claims that are handed out have been compared with the policy. -/
theorem accepted_of_rawClaims (h : d.decode rawClaims lookup now token = .ok members) :
    Registered.Accepted d.policy d.subject now members := by
  rcases decode_rawClaims_eq_ok_iff.1 h with ⟨_, _, _, _, _, _, hclaims⟩
  exact SignedToken.accepted_of_claims hclaims

/-- An ordinary payload is read from the claims that are handed out for the same token. -/
theorem decode_payload_eq_ok_iff {p : Payload} :
    d.decode Decoder.payload lookup now token = .ok p ↔
      ∃ members, d.decode rawClaims lookup now token = .ok members ∧
        Payload.ReadFrom members p := by
  rw [decode_eq_ok_iff_rawClaims]
  simp only [Decoder.payload, mapError_eq_ok_iff, Payload.ofClaims_eq_ok_iff]

/-- Once a token has been decoded, a decoder with the same algorithms decodes it exactly when its
policy and subject accept the claims. -/
theorem decode_eq_ok_iff_accepted {d' : Decoder}
    (hraw : d.decode rawClaims lookup now token = .ok members) (hread : read members = .ok payload)
    (halgorithms : d'.policy.algorithms = d.policy.algorithms) :
    d'.decode read lookup now token = .ok payload ↔
      Registered.Accepted d'.policy d'.subject now members := by
  rcases decode_rawClaims_eq_ok_iff.1 hraw with ⟨kid, jwk, key, hkid, hjwk, hkey, hclaims⟩
  rw [decode_eq_ok_iff_rawClaims]
  constructor
  · rintro ⟨members', hraw', _⟩
    rcases decode_rawClaims_eq_ok_iff.1 hraw' with ⟨_, _, _, _, _, _, hclaims'⟩
    have hsame : members' = members := SignedToken.claims_inj hclaims hclaims'
    exact hsame ▸ accepted_of_rawClaims hraw'
  · intro haccepted
    have hclaims' := (SignedToken.claims_eq_ok_iff_accepted hclaims halgorithms).2 haccepted
    have hraw' : d'.decode rawClaims lookup now token = .ok members :=
      decode_rawClaims_eq_ok_iff.2 ⟨kid, jwk, key, hkid, hjwk, hkey, hclaims'⟩
    exact ⟨members, hraw', hread⟩

/-- A token that is put together from its parts decodes when each stage succeeds on the parts. -/
theorem decode_ofList_chars {parts : CompactToken} {header : TokenHeader} {jwk : Jwk}
    {written : Json.Members} (hdots : '.' ∉ parts.payload ∧ '.' ∉ parts.signature)
    (hheader : TokenHeader.ofPart parts.header = .ok header) (hkid : header.kid = some kid)
    (hjwk : lookup kid = .ok jwk) (hkey : VerifyingKey.ofJwk? jwk = some key)
    (hsignature : SignedToken.checkSignature d.policy key parts header = .ok ())
    (hwritten : SignedToken.claimMembers parts = .ok written)
    (hchecked : Registered.check d.policy d.subject now written = .ok ())
    (hread : read (Json.Members.mergedDeep written) = .ok payload) :
    d.decode read lookup now (String.ofList parts.chars) = .ok payload := by
  have hparts : CompactToken.ofChars? (String.ofList parts.chars).toList = some parts :=
    CompactToken.ofChars?_eq_some_iff.2 ⟨String.toList_ofList, hdots⟩
  have htoken : TokenHeader.ofToken (String.ofList parts.chars) = .ok (parts, header) :=
    TokenHeader.ofToken_eq_ok_iff.2 ⟨hparts, TokenHeader.ofPart_eq_ok_iff.1 hheader⟩
  rcases Registered.check_eq_ok_iff.1 hchecked with ⟨hreadable, haccepted⟩
  have hclaims : d.claims now key (String.ofList parts.chars) =
      .ok (Json.Members.mergedDeep written) :=
    claims_eq_ok_iff.2 (SignedToken.claims_eq_ok_iff.2 ⟨parts, header, written, htoken,
      SignedToken.checkSignature_eq_ok_iff.1 hsignature,
      SignedToken.claimMembers_eq_ok_iff.1 hwritten, hreadable, rfl,
      (Registered.accepted_mergedDeep_iff hreadable).2 haccepted⟩)
  exact decode_eq_ok_iff.2 ⟨kid, jwk, key, _,
    SignedToken.keyId_eq_ok_iff.2 ⟨parts, header, htoken, hkid⟩, hjwk, hkey, hclaims, hread⟩

end Decoder

/-! ## A token that decodes -/

namespace Sample

/-- An Ed25519 key under the key id `k`. -/
def jwk : Jwk :=
  ⟨none, none, none, some "k", none, none, none, none,
    .octetPair .ed25519 "hCWSRya71DE-HmcqbOvigq9Q9YvUFY3M5Hy8sLRzzJc"⟩

def key : VerifyingKey :=
  .edwards [0x84, 0x25, 0x92, 0x47, 0x26, 0xbb, 0xd4, 0x31, 0x3e, 0x1e, 0x67,
    0x2a, 0x6c, 0xeb, 0xe2, 0x82, 0xaf, 0x50, 0xf5, 0x8b, 0xd4, 0x15,
    0x8d, 0xcc, 0xe4, 0x7c, 0xbc, 0xb0, 0xb4, 0x73, 0xcc, 0x97]

/-- The set that holds only this key. -/
def keys : JwkSet :=
  ⟨[jwk]⟩

/-- A policy with one audience, one issuer and a minute of leeway. -/
def policy : Policy :=
  ⟨"a", Algorithm.defaults, some ["a"], some ["i"], 60⟩

/-- A decoder that asks for the subject `s`. -/
def decoder : Decoder :=
  ⟨policy, some "s"⟩

/-- The moment at which the sample tokens are judged. -/
def now : Nat := 1767225600

/-- The header that all sample tokens have: the algorithm `EdDSA` and the key id `k`. -/
def header : List Char :=
  "eyJhbGciOiJFZERTQSIsImtpZCI6ImsifQ".toList

/-- What a token with these parts has to pass on its way to its claims. -/
def Passes (parts : CompactToken) (written : Json.Members) : Prop :=
  ('.' ∉ parts.payload ∧ '.' ∉ parts.signature) ∧
    TokenHeader.ofPart parts.header = .ok ⟨.EdDSA, some "k"⟩ ∧
      SignedToken.checkSignature policy key parts ⟨.EdDSA, some "k"⟩ = .ok () ∧
        SignedToken.claimMembers parts = .ok written ∧
          Registered.check policy (some "s") now written = .ok () ∧
            Json.Members.mergedDeep written = written

instance {parts : CompactToken} {written : Json.Members} : Decidable (Passes parts written) :=
  inferInstanceAs (Decidable (_ ∧ _))

theorem decode_rawClaims_of_passes {parts : CompactToken} {written : Json.Members}
    (h : Passes parts written) :
    decoder.decode Decoder.rawClaims keys.lookup now (String.ofList parts.chars) = .ok written := by
  rcases h with ⟨hdots, hheader, hsignature, hwritten, hchecked, hmerged⟩
  have hread : Decoder.rawClaims (Json.Members.mergedDeep written) = .ok written :=
    congrArg Except.ok hmerged
  have hjwk : keys.lookup "k" = .ok jwk := by decide
  have hkey : VerifyingKey.ofJwk? jwk = some key := by decide +kernel
  exact Decoder.decode_ofList_chars hdots hheader rfl hjwk hkey hsignature hwritten hchecked hread

/-- A token for the audiences `a` and `b`. It expired half a minute ago and starts to be valid in
half a minute, so that it is valid only by the leeway. -/
def parts : CompactToken where
  header := header
  payload :=
    "eyJleHAiOjE3NjcyMjU1NzAsIm5iZiI6MTc2NzIyNT".toList ++
      "YzMCwiaWF0IjoxLCJpc3MiOiJpIiwic3ViIjoicyIs".toList ++
      "ImF1ZCI6WyJhIiwiYiJdLCJzY29wZSI6IlIgdyJ9".toList
  signature :=
    "eO2zVRRz-5dQ9SpEr8uySWaFaR0T632j3RuJbrdOYGu".toList ++
      "PUs_z99QrgfLZtc30aTpy2dS-rSvfo5TDmSFvePhhDw".toList

def token : String :=
  String.ofList parts.chars

def payload : Payload :=
  ⟨["r", "w"], ["a", "b"], "i", .ofSeconds 1767225570, .ofSeconds 1, .ofSeconds 1767225630, "s"⟩

/-- The claims of this token. -/
def claims : Json.Members :=
  [("exp", .ofInt 1767225570), ("nbf", .ofInt 1767225630), ("iat", .ofInt 1), ("iss", .str "i"),
    ("sub", .str "s"), ("aud", .ofStrings ["a", "b"]), ("scope", .str "R w")]

theorem header_of_token : TokenHeader.ofToken token = .ok (parts, ⟨.EdDSA, some "k"⟩) := by
  have hparts : CompactToken.ofChars? token.toList = some parts :=
    CompactToken.ofChars?_eq_some_iff.2 ⟨String.toList_ofList, by decide +kernel⟩
  have hpart : TokenHeader.ofPart parts.header = .ok ⟨.EdDSA, some "k"⟩ := by decide +kernel
  exact TokenHeader.ofToken_eq_ok_iff.2 ⟨hparts, TokenHeader.ofPart_eq_ok_iff.1 hpart⟩

theorem decode_rawClaims :
    decoder.decode Decoder.rawClaims keys.lookup now token = .ok claims :=
  decode_rawClaims_of_passes (by decide +kernel)

theorem decode_token : decoder.decode Decoder.payload keys.lookup now token = .ok payload :=
  Decoder.decode_payload_eq_ok_iff.2
    ⟨claims, decode_rawClaims, Payload.ofClaims_eq_ok_iff.1 (by decide +kernel)⟩

end Sample

end BearerAuth
