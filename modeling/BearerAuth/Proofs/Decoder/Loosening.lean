import BearerAuth.Proofs.Decoder.Basic

/-!
# Looser policies accept more

A policy is loosened by allowing more algorithms, by widening or dropping a list of audiences or
issuers, and by more leeway; a decoder also by no longer asking for a subject. The main statement
here says that this never costs a token: what has been decoded is decoded by a looser decoder as
well, with the same payload. It is put together from one such statement for the signature and one
for the registered claims, since no comparison that a looser decoder leaves out guards another one.

Policies that loosen to each other accept the same tokens. So the order and the repetition of list
entries do not matter, nor does the audience that the service itself stands for.
-/

namespace BearerAuth

variable {d d' : Decoder} {now : Nat} {key : VerifyingKey} {token : String}
  {members : Json.Members}

/-! ## What is looser -/

/-- A restriction to `allowed'` lets every text pass that a restriction to `allowed` does: there is
none any more, or there was one to fewer texts. -/
def WidensTo (allowed allowed' : Option (List String)) : Prop :=
  ∀ names' ∈ allowed', ∃ names ∈ allowed, names ⊆ names'

/-- A policy asks for no more than another one. -/
structure Policy.LoosensTo (p p' : Policy) : Prop where
  algorithms : p.algorithms ⊆ p'.algorithms
  audiences : WidensTo p.audiences p'.audiences
  issuers : WidensTo p.issuers p'.issuers
  leeway : p.leeway ≤ p'.leeway

/-- A decoder asks for no more than another one. -/
structure Decoder.LoosensTo (d d' : Decoder) : Prop where
  policy : d.policy.LoosensTo d'.policy
  subject : d'.subject = none ∨ d'.subject = d.subject

/-- Two policies differ at most in the order and the repetition of list entries, and in the audience
that the service itself stands for. -/
structure Policy.SameUpToOrder (p p' : Policy) : Prop where
  algorithms : ∀ a, a ∈ p.algorithms ↔ a ∈ p'.algorithms
  audiences : Option.Rel (fun names names' => ∀ s, s ∈ names ↔ s ∈ names') p.audiences p'.audiences
  issuers : Option.Rel (fun names names' => ∀ s, s ∈ names ↔ s ∈ names') p.issuers p'.issuers
  leeway : p.leeway = p'.leeway

theorem widensTo_of_rel {allowed allowed' : Option (List String)}
    (h : Option.Rel (fun names names' => ∀ s, s ∈ names ↔ s ∈ names') allowed allowed') :
    WidensTo allowed allowed' ∧ WidensTo allowed' allowed := by
  cases h with
  | none =>
    constructor
    · intro names' hnames'
      cases hnames'
    · intro names hnames
      cases hnames
  | @some names names' hsame =>
    constructor
    · intro other hother
      have heq : names' = other := Option.some.inj hother
      exact ⟨names, rfl, fun s hs => heq ▸ (hsame s).1 hs⟩
    · intro other hother
      have heq : names = other := Option.some.inj hother
      exact ⟨names', rfl, fun s hs => heq ▸ (hsame s).2 hs⟩

theorem Policy.SameUpToOrder.loosensTo {p p' : Policy} (h : p.SameUpToOrder p') :
    p.LoosensTo p' ∧ p'.LoosensTo p := by
  have haudiences := widensTo_of_rel h.audiences
  have hissuers := widensTo_of_rel h.issuers
  constructor
  · exact ⟨fun a ha => (h.algorithms a).1 ha, haudiences.1, hissuers.1, UInt64.le_of_eq h.leeway⟩
  · exact ⟨fun a ha => (h.algorithms a).2 ha, haudiences.2, hissuers.2,
      UInt64.le_of_eq h.leeway.symm⟩

/-! ## Each stage of a check -/

/-- A claim that names an allowed text still does where more texts are allowed. -/
theorem WidensTo.named {allowed allowed' : Option (List String)} (h : WidensTo allowed allowed')
    {texts : List String} (hnamed : ∀ names ∈ allowed, ∃ s ∈ texts, s ∈ names) :
    ∀ names' ∈ allowed', ∃ s ∈ texts, s ∈ names' := by
  intro names' hnames'
  rcases h names' hnames' with ⟨names, hnames, hsubset⟩
  rcases hnamed names hnames with ⟨s, hs, hmem⟩
  exact ⟨s, hs, hsubset hmem⟩

theorem SignedToken.Trusted.mono {policy policy' : Policy} {parts : CompactToken}
    {header : TokenHeader} (h : Trusted policy key parts header)
    (halgorithms : policy.algorithms ⊆ policy'.algorithms) : Trusted policy' key parts header :=
  ⟨halgorithms h.allowed, h.family_eq, h.verified⟩

/-- Claims that a decoder accepts are accepted by a looser one. -/
theorem Registered.Accepted.mono (h : Accepted d.policy d.subject now members)
    (hloose : d.LoosensTo d') : Accepted d'.policy d'.subject now members := by
  have hleeway : d.policy.leeway.toNat ≤ d'.policy.leeway.toNat :=
    UInt64.le_iff_toNat_le.1 hloose.policy.leeway
  refine ⟨?_, ?_, ?_, ?_, ?_⟩
  · rcases h.unexpired with ⟨expiry, hexpiry, hopen⟩
    exact ⟨expiry, hexpiry, by omega⟩
  · rcases h.started with habsent | ⟨start, hstart, hopen⟩
    · exact .inl habsent
    · exact .inr ⟨start, hstart, by omega⟩
  -- The looser decoder asks for no subject or for the one that has been compared.
  · rcases hloose.subject with hnone | hsame
    · simp [hnone]
    · rw [hsame]
      exact h.subject_eq
  · intro names' hnames' v hv hcomparable
    have hnamed := fun names hnames => h.issuer_mem names hnames v hv hcomparable
    exact hloose.policy.issuers.named hnamed names' hnames'
  · intro names' hnames' v hv hcomparable
    have hnamed := fun names hnames => h.audience_mem names hnames v hv hcomparable
    exact hloose.policy.audiences.named hnamed names' hnames'

namespace Decoder

/-- A token that passes the check of a decoder passes that of a looser one, with the same claims. -/
theorem claims_mono (hloose : d.LoosensTo d') (h : d.claims now key token = .ok members) :
    d'.claims now key token = .ok members := by
  rcases SignedToken.claims_eq_ok_iff.1 (claims_eq_ok_iff.1 h) with
    ⟨parts, header, written, htoken, htrusted, hwritten, hreadable, hmembers, haccepted⟩
  exact claims_eq_ok_iff.2 (SignedToken.claims_eq_ok_iff.2
    ⟨parts, header, written, htoken, htrusted.mono hloose.policy.algorithms, hwritten, hreadable,
      hmembers, haccepted.mono hloose⟩)

/-- A token that a decoder decodes is decoded by a looser one, to the same payload. -/
theorem decode_mono {π : Type} {read : Json.Members → Except Cause π}
    {lookup : String → Except KeyStoreError Jwk} {payload : π} (hloose : d.LoosensTo d')
    (h : d.decode read lookup now token = .ok payload) :
    d'.decode read lookup now token = .ok payload := by
  rcases decode_eq_ok_iff.1 h with ⟨kid, jwk, key, members, hkid, hjwk, hkey, hclaims, hread⟩
  exact decode_eq_ok_iff.2
    ⟨kid, jwk, key, members, hkid, hjwk, hkey, claims_mono hloose hclaims, hread⟩

/-- No token is lost by loosening a policy, for raw claims as for payloads of any kind, and decoders
whose policies are the same up to order decode the same tokens to the same payloads. -/
theorem loosening_keeps_tokens (now : Nat) (token : String) :
    (∀ {d d' : Decoder}, d.LoosensTo d' →
      (∀ key members, d.claims now key token = .ok members →
        d'.claims now key token = .ok members) ∧
      ∀ {π : Type} (read : Json.Members → Except Cause π)
        (lookup : String → Except KeyStoreError Jwk) (payload : π),
        d.decode read lookup now token = .ok payload →
          d'.decode read lookup now token = .ok payload) ∧
    ∀ {d d' : Decoder}, d.policy.SameUpToOrder d'.policy → d.subject = d'.subject →
      ∀ {π : Type} (read : Json.Members → Except Cause π)
        (lookup : String → Except KeyStoreError Jwk) (payload : π),
        d.decode read lookup now token = .ok payload ↔
          d'.decode read lookup now token = .ok payload := by
  constructor
  · intro d d' hloose
    constructor
    · intro key members
      exact claims_mono hloose
    · intro π read lookup payload
      exact decode_mono hloose
  · intro d d' hsame hsubject π read lookup payload
    -- Policies that agree up to order loosen to each other.
    have hpolicies := hsame.loosensTo
    constructor
    · exact decode_mono ⟨hpolicies.1, .inr hsubject.symm⟩
    · exact decode_mono ⟨hpolicies.2, .inr hsubject⟩

/-- The sample token, which is valid only by its leeway, is decoded by a decoder with more leeway,
more issuers, and no audiences or subject to ask for, and by one with its lists in another order. -/
theorem sample_token_loosened :
    let loose : Decoder := ⟨⟨"c", Algorithm.defaults, none, some ["j", "i"], 90⟩, none⟩
    let shuffled : Decoder :=
      ⟨⟨"b", Algorithm.defaults.reverse, some ["a", "a"], some ["i"], 60⟩, some "s"⟩
    (Sample.decoder.LoosensTo loose ∧
      Sample.decoder.decode payload Sample.keys.lookup Sample.now Sample.token =
        .ok Sample.payload ∧
      loose.decode payload Sample.keys.lookup Sample.now Sample.token = .ok Sample.payload) ∧
    Sample.policy.SameUpToOrder shuffled.policy ∧ some "s" = shuffled.subject ∧
      shuffled.decode payload Sample.keys.lookup Sample.now Sample.token = .ok Sample.payload := by
  intro loose shuffled
  have hloose : Sample.decoder.LoosensTo loose := by
    refine ⟨⟨by decide, ?_, ?_, by decide⟩, .inl rfl⟩
    · intro names' hnames'
      cases hnames'
    · intro names' hnames'
      have heq : ["j", "i"] = names' := Option.some.inj hnames'
      exact ⟨["i"], rfl, heq ▸ by decide⟩
  have hsame : Sample.policy.SameUpToOrder shuffled.policy := by
    refine ⟨?_, .some ?_, .some ?_, rfl⟩
    · intro a
      simp [shuffled, Sample.policy]
    · simp
    · simp
  rcases loosening_keeps_tokens Sample.now Sample.token with ⟨hkeeps, hiff⟩
  refine ⟨⟨hloose, Sample.decode_token, ?_⟩, hsame, rfl, ?_⟩
  · exact (hkeeps hloose).2 payload Sample.keys.lookup Sample.payload Sample.decode_token
  · have hdecode := @hiff Sample.decoder shuffled hsame rfl _ payload Sample.keys.lookup
      Sample.payload
    exact hdecode.1 Sample.decode_token

end Decoder

end BearerAuth
