import BearerAuth.Proofs.Decoder.Basic

/-!
# Payloads conform to the policy

The comparison with a policy reads the claims strictly, and the payload is read from them again with
more forms allowed. So it has to be shown that the two readings cannot differ where it matters: a
payload that has been handed out says what the comparison has seen.
-/

namespace BearerAuth

/-- A payload meets what a policy and a subject ask for at a given time: it has not expired and is
already valid, each with the leeway and to the whole second, its issuer is allowed, and its subject
is the one asked for. -/
structure Payload.ConformsTo (policy : Policy) (subject : Option String) (now : Nat)
    (p : Payload) : Prop where
  unexpired : (now : Int) - policy.leeway.toNat ≤ p.exp.seconds
  started : p.nbf.seconds ≤ now + policy.leeway.toNat
  whole : p.exp.nanoseconds = 0 ∧ p.nbf.nanoseconds = 0
  issuer_mem : ∀ names, policy.issuers = some names → p.iss ∈ names
  subject_eq : ∀ wanted, subject = some wanted → p.sub = wanted

namespace Decoder

variable {d : Decoder} {lookup : String → Except KeyStoreError Jwk} {now : Nat} {token : String}
  {members : Json.Members} {p : Payload}

/-- A time claim of a payload is the second that has been compared. -/
theorem eq_ofSeconds_of_reading {key : String} {t : Instant} {n : Nat}
    (ht : ∃ v, members.get? key = some v ∧ Claims.timestampValue v = .ok t)
    (hn : Registered.reading Registered.seconds? members key = .value n) :
    t = Instant.ofSeconds n := by
  rcases ht with ⟨v, hv, ht⟩
  rcases Registered.reading_eq_value_iff.1 hn with ⟨w, hw, hn⟩
  have hvw : w = v := Option.some.inj (hw.symm.trans hv)
  exact Claims.eq_ofSeconds_of_seconds? ht (hvw ▸ hn)

/-- Every payload that is handed out conforms to the policy and the subject of the decoder. -/
theorem decoded_payload_conforms (h : d.decode payload lookup now token = .ok p) :
    p.ConformsTo d.policy d.subject now := by
  rcases decode_payload_eq_ok_iff.1 h with ⟨members, hraw, hread⟩
  have haccepted := accepted_of_rawClaims hraw
  rcases haccepted.unexpired with ⟨expiry, hexpiry, hunexpired⟩
  have hexp : p.exp = Instant.ofSeconds expiry := eq_ofSeconds_of_reading hread.exp hexpiry
  -- The comparison lets a token without a start of validity pass, but no payload is read from it.
  obtain ⟨start, hstart, hstarted⟩ : ∃ start,
      Registered.reading Registered.seconds? members "nbf" = .value start ∧
        start ≤ now + d.policy.leeway.toNat := by
    rcases haccepted.started with habsent | hvalue
    · rcases hread.nbf with ⟨v, hv, _⟩
      rw [Registered.reading_eq_absent_iff.1 habsent] at hv
      cases hv
    · exact hvalue
  have hnbf : p.nbf = Instant.ofSeconds start := eq_ofSeconds_of_reading hread.nbf hstart
  refine ⟨?_, ?_, ?_, ?_, ?_⟩
  · have hseconds : p.exp.seconds = expiry := by rw [hexp]; rfl
    omega
  · have hseconds : p.nbf.seconds = start := by rw [hnbf]; rfl
    omega
  · exact ⟨by rw [hexp]; rfl, by rw [hnbf]; rfl⟩
  · intro names hnames
    rcases haccepted.issuer_mem names hnames _ hread.iss (.inl ⟨p.iss, rfl⟩) with ⟨s, hs, hmem⟩
    have hiss : s = p.iss := by simpa [Registered.named] using hs
    exact hiss ▸ hmem
  · intro wanted hwanted
    exact haccepted.subject_eq wanted hwanted p.sub hread.sub

/-- The sample token conforms, by its leeway at both ends. -/
theorem sample_payload_conforms :
    Sample.decoder.decode payload Sample.keys.lookup Sample.now Sample.token =
        .ok Sample.payload ∧
      Sample.payload.ConformsTo Sample.policy (some "s") Sample.now ∧
        Sample.payload.exp.seconds < Sample.now ∧ Sample.now < Sample.payload.nbf.seconds :=
  ⟨Sample.decode_token, decoded_payload_conforms Sample.decode_token, by decide, by decide⟩

end Decoder

end BearerAuth
