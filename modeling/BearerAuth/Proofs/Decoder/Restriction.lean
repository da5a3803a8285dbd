import BearerAuth.Proofs.Decoder.Basic

/-!
# What the subject and the lists of issuers and audiences restrict

Subject, issuer and audience are compared only where the claim is there in a form that can be
compared. There the comparison binds what is handed out, for raw claims as for payloads. A claim
that is absent or in another form passes any subject and any list: nothing asks for these claims to
be there, and nothing refuses their other forms. Both sides are stated as equivalences, and a token
for each case shows that the other side is not empty.
-/

namespace BearerAuth

namespace Registered

/-- A claim is there, and it is one of the texts `names` or a list with one of them. -/
def Names (members : Json.Members) (key : String) (names : List String) : Prop :=
  ∃ v, members.get? key = some v ∧ ∃ s ∈ named v, s ∈ names

/-- A claim is there in the form in which it is compared with a list of texts. -/
def HasComparable (members : Json.Members) (key : String) : Prop :=
  ∃ v, members.get? key = some v ∧ IsComparable v

/-- A claim is a list, of whatever values, with one of the texts `names` among them. -/
def Lists (members : Json.Members) (key : String) (names : List String) : Prop :=
  ∃ items, members.get? key = some (.arr items) ∧ ∃ s ∈ names, Json.str s ∈ items

variable {members : Json.Members} {key : String} {names : List String}

theorem hasComparable_imp_names_iff :
    (HasComparable members key → Names members key names) ↔
      ∀ v, members.get? key = some v → IsComparable v → ∃ s ∈ named v, s ∈ names := by
  constructor
  · intro h v hv hcomparable
    rcases h ⟨v, hv, hcomparable⟩ with ⟨w, hw, hnamed⟩
    have hsame : w = v := Option.some.inj (hw.symm.trans hv)
    exact hsame ▸ hnamed
  · rintro h ⟨v, hv, hcomparable⟩
    exact ⟨v, hv, h v hv hcomparable⟩

/-- A comparison where it is possible leaves one other way for a claim to name an allowed text: a
list that cannot be compared may happen to have one. -/
theorem names_iff_hasComparable_or_lists
    (h : HasComparable members key → Names members key names) :
    Names members key names ↔ HasComparable members key ∨ Lists members key names := by
  constructor
  · rintro ⟨v, hv, s, hs, hmem⟩
    cases v with
    | str t => exact .inl ⟨_, hv, .inl ⟨t, rfl⟩⟩
    | arr items =>
      rcases List.mem_filterMap.1 hs with ⟨item, hitem, htext⟩
      have hstr : item = .str s := string?_eq_some_iff.1 htext
      exact .inr ⟨items, hv, s, hmem, hstr ▸ hitem⟩
    | _ => simp [named] at hs
  · intro hor
    rcases hor with hcomparable | ⟨items, hitems, s, hmem, hs⟩
    · exact h hcomparable
    · exact ⟨_, hitems, s, List.mem_filterMap.2 ⟨_, hs, rfl⟩, hmem⟩

end Registered

namespace Decoder

open Registered (HasComparable Lists Names)

def withSubject (d : Decoder) (subject : String) : Decoder :=
  { d with subject := some subject }

def withIssuers (d : Decoder) (issuers : List String) : Decoder :=
  { d with policy := { d.policy with issuers := some issuers } }

def withAudiences (d : Decoder) (audiences : List String) : Decoder :=
  { d with policy := { d.policy with audiences := some audiences } }

variable {d : Decoder} {π : Type} {read : Json.Members → Except Cause π}
  {lookup : String → Except KeyStoreError Jwk} {now : Nat} {key : VerifyingKey} {token : String}
  {members : Json.Members} {payload : π}

/-! ## Acceptance under another subject or list -/

section Accepted

variable (h : Registered.Accepted d.policy d.subject now members)

include h

/-- Only a subject that is a text is compared with the subject that is asked for. -/
theorem accepted_withSubject_iff {s : String} :
    Registered.Accepted (d.withSubject s).policy (d.withSubject s).subject now members ↔
      ∀ t, members.get? "sub" = some (.str t) → t = s := by
  constructor
  · intro h'
    exact h'.subject_eq s rfl
  · intro hsubject
    refine ⟨h.unexpired, h.started, ?_, h.issuer_mem, h.audience_mem⟩
    intro wanted hwanted
    have hsame : s = wanted := Option.some.inj hwanted
    exact hsame ▸ hsubject

/-- Only an issuer that can be compared is compared with a list of issuers. -/
theorem accepted_withIssuers_iff {names : List String} :
    Registered.Accepted (d.withIssuers names).policy (d.withIssuers names).subject now members ↔
      (HasComparable members "iss" → Names members "iss" names) := by
  rw [Registered.hasComparable_imp_names_iff]
  constructor
  · intro h'
    exact h'.issuer_mem names rfl
  · intro hissuer
    refine ⟨h.unexpired, h.started, h.subject_eq, ?_, h.audience_mem⟩
    intro other hother
    have hsame : names = other := Option.some.inj hother
    exact hsame ▸ hissuer

/-- Only an audience that can be compared is compared with a list of audiences. -/
theorem accepted_withAudiences_iff {names : List String} :
    Registered.Accepted (d.withAudiences names).policy (d.withAudiences names).subject now members ↔
      (HasComparable members "aud" → Names members "aud" names) := by
  rw [Registered.hasComparable_imp_names_iff]
  constructor
  · intro h'
    exact h'.audience_mem names rfl
  · intro haudience
    refine ⟨h.unexpired, h.started, h.subject_eq, h.issuer_mem, ?_⟩
    intro other hother
    have hsame : names = other := Option.some.inj hother
    exact hsame ▸ haudience

end Accepted

/-! ## Audiences of payloads -/

/-- A payload that is handed out has an allowed audience exactly where its claim can be compared, or
is a list that cannot be compared and happens to have an allowed text. Any list of audiences hands
out the same payload where the claim cannot be compared, and that is a list with an entry that is
not a text. -/
theorem decoded_audience_named_iff {p : Payload}
    (h : d.decode Decoder.payload lookup now token = .ok p) :
    ∃ members, d.decode rawClaims lookup now token = .ok members ∧ Payload.ReadFrom members p ∧
      (∀ names, d.policy.audiences = some names →
        (Names members "aud" names ↔ HasComparable members "aud" ∨ Lists members "aud" names)) ∧
      (∀ names, (d.withAudiences names).decode Decoder.payload lookup now token = .ok p ↔
        (HasComparable members "aud" → Names members "aud" names)) ∧
      (HasComparable members "aud" ∨
        ∃ items, members.get? "aud" = some (.arr items) ∧ ∃ item ∈ items, ∀ s, item ≠ .str s) := by
  rcases decode_payload_eq_ok_iff.1 h with ⟨members, hraw, hread⟩
  have haccepted := accepted_of_rawClaims hraw
  refine ⟨members, hraw, hread, ?_, ?_, ?_⟩
  · intro names hnames
    refine Registered.names_iff_hasComparable_or_lists ?_
    exact Registered.hasComparable_imp_names_iff.2 (haccepted.audience_mem names hnames)
  · intro names
    have hpayload : Decoder.payload members = .ok p :=
      mapError_eq_ok_iff.2 (Payload.ofClaims_eq_ok_iff.2 hread)
    have hsame : (d.withAudiences names).policy.algorithms = d.policy.algorithms := rfl
    exact (decode_eq_ok_iff_accepted hraw hpayload hsame).trans
      (accepted_withAudiences_iff haccepted)
  -- A payload takes its audience from a text or a list only.
  · rcases hread.aud with ⟨v, hv, htexts⟩
    cases v with
    | str s => exact .inl ⟨_, hv, .inl ⟨s, rfl⟩⟩
    | arr items =>
      by_cases hall : ∀ item ∈ items, ∃ s, item = .str s
      · exact .inl ⟨_, hv, .inr ⟨items, rfl, hall⟩⟩
      · refine .inr ⟨items, hv, ?_⟩
        simpa using hall
    | _ => simp [Claims.stringList] at htexts

/-- The audience of the sample token can be compared, and one of its texts is allowed. -/
theorem sample_audience_named :
    Sample.decoder.decode Decoder.payload Sample.keys.lookup Sample.now Sample.token =
        .ok Sample.payload ∧
      HasComparable Sample.claims "aud" ∧ Names Sample.claims "aud" ["a"] := by
  have hcomparable : HasComparable Sample.claims "aud" :=
    ⟨.ofStrings ["a", "b"], rfl, Registered.isComparable_iff.2 rfl⟩
  refine ⟨Sample.decode_token, hcomparable, ?_⟩
  rcases decoded_audience_named_iff Sample.decode_token with ⟨members, hraw, _, hnamed, _⟩
  have hmembers : members = Sample.claims :=
    Except.ok.inj (hraw.symm.trans Sample.decode_rawClaims)
  exact (hmembers ▸ hnamed ["a"] rfl).2 (.inl hcomparable)

/-- A token for the audience `b` and the number 5, which gets past the audience `a`. -/
def mixedParts : CompactToken where
  header := Sample.header
  payload :=
    "eyJleHAiOjQxMDI0NDQ4MDAsIm5iZiI6MSwiaWF0Ijo".toList ++
      "xLCJpc3MiOiJpIiwic3ViIjoicyIsImF1ZCI6WyJiIi".toList ++
      "w1XSwic2NvcGUiOiJyIn0".toList
  signature :=
    "_t12PTgbm3PbEU1tvq867qQpqdVcESXMUR5_sY-5ioh".toList ++
      "_UNeZuBOZGjTG00PxydnYuhhAi2akccPgjma83XqGBQ".toList

def mixedClaims : Json.Members :=
  [("exp", .ofInt 4102444800), ("nbf", .ofInt 1), ("iat", .ofInt 1), ("iss", .str "i"),
    ("sub", .str "s"), ("aud", .arr [.str "b", .ofInt 5]), ("scope", .str "r")]

/-- A list with an entry that is no text hides the other audiences from the comparison. -/
theorem mixed_audience_unrestricted :
    ∃ p, Sample.decoder.decode Decoder.payload Sample.keys.lookup Sample.now
        (String.ofList mixedParts.chars) = .ok p ∧
      Sample.decoder.decode rawClaims Sample.keys.lookup Sample.now
        (String.ofList mixedParts.chars) = .ok mixedClaims ∧
      Sample.decoder.policy.audiences = some ["a"] ∧ ¬Names mixedClaims "aud" ["a"] := by
  have hraw : Sample.decoder.decode rawClaims Sample.keys.lookup Sample.now
      (String.ofList mixedParts.chars) = .ok mixedClaims :=
    Sample.decode_rawClaims_of_passes (by decide +kernel)
  have hread : Payload.ReadFrom mixedClaims
      ⟨["r"], ["b", "5"], "i", .ofSeconds 4102444800, .ofSeconds 1, .ofSeconds 1, "s"⟩ :=
    Payload.ofClaims_eq_ok_iff.1 (by decide +kernel)
  refine ⟨_, decode_payload_eq_ok_iff.2 ⟨mixedClaims, hraw, hread⟩, hraw, rfl, ?_⟩
  rintro ⟨v, hv, s, hs, hmem⟩
  have hlist : v = .arr [.str "b", .ofInt 5] := (Option.some.inj hv).symm
  subst hlist
  simp [Registered.named, Json.string?, Json.ofInt] at hs
  simp [hs] at hmem

/-! ## Subject and issuers of raw claims -/

/-- How a decoder binds the subject and the issuer of claims that it hands out. Which other decoders
hand them out is said by `accepts`. -/
structure Binds (d : Decoder) (accepts : Decoder → Prop) (members : Json.Members) : Prop where
  /-- The subject that is asked for is there exactly where the claim is a text. -/
  subject_eq_iff : ∀ s, d.subject = some s →
    (members.get? "sub" = some (.str s) ↔ ∃ t, members.get? "sub" = some (.str t))
  /-- An allowed issuer is there exactly where the claim can be compared, or is a list that cannot
  be compared and happens to have one. -/
  issuer_named_iff : ∀ names, d.policy.issuers = some names →
    (Names members "iss" names ↔ HasComparable members "iss" ∨ Lists members "iss" names)
  /-- Where the subject is no text, any other subject is as good. -/
  withSubject_iff : ∀ s, accepts (d.withSubject s) ↔
    ∀ t, members.get? "sub" = some (.str t) → t = s
  /-- Where the issuer cannot be compared, any other list of issuers is as good. -/
  withIssuers_iff : ∀ names, accepts (d.withIssuers names) ↔
    (HasComparable members "iss" → Names members "iss" names)

theorem binds_of_accepted {accepts : Decoder → Prop}
    (h : Registered.Accepted d.policy d.subject now members)
    (haccepts : ∀ d' : Decoder, d'.policy.algorithms = d.policy.algorithms →
      (accepts d' ↔ Registered.Accepted d'.policy d'.subject now members)) :
    d.Binds accepts members := by
  refine ⟨?_, ?_, ?_, ?_⟩
  · intro s hs
    constructor
    · intro hsub
      exact ⟨s, hsub⟩
    · rintro ⟨t, ht⟩
      have hts : t = s := h.subject_eq s hs t ht
      exact hts ▸ ht
  · intro names hnames
    refine Registered.names_iff_hasComparable_or_lists ?_
    exact Registered.hasComparable_imp_names_iff.2 (h.issuer_mem names hnames)
  · intro s
    exact (haccepts (d.withSubject s) rfl).trans (accepted_withSubject_iff h)
  · intro names
    exact (haccepts (d.withIssuers names) rfl).trans (accepted_withIssuers_iff h)

/-- The claims of a token are bound by subject and issuers only where they can be compared, both
when they are checked with a given key and when any reader of payloads gets them. -/
theorem handed_out_claims_bound (d : Decoder) (now : Nat) (token : String) :
    (∀ key members, d.claims now key token = .ok members →
      d.Binds (fun d' => d'.claims now key token = .ok members) members) ∧
    (∀ {π : Type} (read : Json.Members → Except Cause π)
      (lookup : String → Except KeyStoreError Jwk) (payload : π),
      d.decode read lookup now token = .ok payload →
        ∃ members, d.decode rawClaims lookup now token = .ok members ∧
          read members = .ok payload ∧
            d.Binds (fun d' => d'.decode read lookup now token = .ok payload) members) := by
  refine ⟨?_, ?_⟩
  · intro key members h
    have hclaims := claims_eq_ok_iff.1 h
    refine binds_of_accepted (SignedToken.accepted_of_claims hclaims) ?_
    intro d' halgorithms
    rw [claims_eq_ok_iff]
    exact SignedToken.claims_eq_ok_iff_accepted hclaims halgorithms
  · intro π read lookup payload h
    rcases decode_eq_ok_iff_rawClaims.1 h with ⟨members, hraw, hread⟩
    refine ⟨members, hraw, hread, binds_of_accepted (accepted_of_rawClaims hraw) ?_⟩
    intro d' halgorithms
    exact decode_eq_ok_iff_accepted hraw hread halgorithms

/-- Subject and issuer of the sample token can be compared, and they are the ones asked for. -/
theorem sample_claims_bound :
    Sample.decoder.decode rawClaims Sample.keys.lookup Sample.now Sample.token =
        .ok Sample.claims ∧
      HasComparable Sample.claims "iss" ∧ Names Sample.claims "iss" ["i"] ∧
        Sample.claims.get? "sub" = some (.str "s") := by
  have hcomparable : HasComparable Sample.claims "iss" :=
    ⟨.str "i", rfl, Registered.isComparable_iff.2 rfl⟩
  rcases (handed_out_claims_bound Sample.decoder Sample.now Sample.token).2 rawClaims
    Sample.keys.lookup Sample.claims Sample.decode_rawClaims with ⟨members, _, hread, hbinds⟩
  have hmembers : members = Sample.claims := Except.ok.inj hread
  rw [hmembers] at hbinds
  exact ⟨Sample.decode_rawClaims, hcomparable,
    (hbinds.issuer_named_iff ["i"] rfl).2 (.inl hcomparable),
    (hbinds.subject_eq_iff "s" rfl).2 ⟨"s", rfl⟩⟩

/-- A token that claims nothing but its expiry. -/
def bareParts : CompactToken where
  header := Sample.header
  payload :=
    "eyJleHAiOjQxMDI0NDQ4MDB9".toList
  signature :=
    "yFFyJnfnsIwQTuPBRg9sBIIn1iLQ_13WnpBGu_2aK6z".toList ++
      "XF5W-EaFqhe1VRw-VEtJbRd18G0X645n3mQns9PKmBg".toList

/-- Neither a subject nor issuers are missed in a token that has none of these claims. -/
theorem bare_claims_unbound :
    Sample.decoder.decode rawClaims Sample.keys.lookup Sample.now
        (String.ofList bareParts.chars) = .ok [("exp", .ofInt 4102444800)] ∧
      Sample.decoder.subject = some "s" ∧ Sample.decoder.policy.issuers = some ["i"] ∧
        Json.Members.get? [("exp", .ofInt 4102444800)] "sub" = none ∧
          ¬Names [("exp", .ofInt 4102444800)] "iss" ["i"] := by
  refine ⟨Sample.decode_rawClaims_of_passes (by decide +kernel), rfl, rfl, by decide, ?_⟩
  rintro ⟨v, hv, _⟩
  cases hv

end Decoder

end BearerAuth
