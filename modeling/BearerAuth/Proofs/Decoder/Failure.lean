import BearerAuth.Proofs.Decoder.Basic

/-!
# How decoding fails

Decoding has five ways to fail before it knows the claims of a token, and a sixth when the claims do
not make a payload. `Refused` lists the five with the error that each of them leads to, and
`decode_eq_error_iff` says that there are no others. The main statement here reads the stage and its
cause off the error: a text and a kind of error belong to one stage only.
-/

namespace BearerAuth

/-- The header of a token can be read and has this key id. -/
def SignedToken.CarriesKeyId (token kid : String) : Prop :=
  ∃ parts header, TokenHeader.ofToken token = .ok (parts, header) ∧ header.kid = some kid

/-- The header of a token can be read and has no key id. -/
def SignedToken.LacksKeyId (token : String) : Prop :=
  ∃ parts header, TokenHeader.ofToken token = .ok (parts, header) ∧ header.kid = none

namespace Decoder

open SignedToken (CarriesKeyId LacksKeyId)

variable {d : Decoder} {π : Type} {read : Json.Members → Except Cause π}
  {lookup : String → Except KeyStoreError Jwk} {now : Nat} {key : VerifyingKey} {token kid : String}
  {members : Json.Members} {e : AuthError}

/-! ## One stage -/

theorem keyId_eq_ok_iff_carries : keyId token = .ok kid ↔ CarriesKeyId token kid :=
  keyId_eq_ok_iff.trans SignedToken.keyId_eq_ok_iff

theorem keyId_eq_error_iff :
    keyId token = .error e ↔
      (∃ t, TokenHeader.ofToken token = .error t ∧
        e = .invalidToken keyIdFailed (some (.token t))) ∨
      LacksKeyId token ∧ e = .invalidToken keyIdFailed none := by
  unfold keyId SignedToken.keyId LacksKeyId
  cases TokenHeader.ofToken token with
  | error t => simp [eq_comm]
  | ok found =>
    rcases found with ⟨parts, header⟩
    cases hkid : header.kid with
    | none => simp [hkid, eq_comm]
    | some kid => simp [hkid]

theorem resolveKey_eq_error_iff :
    resolveKey lookup kid = .error e ↔
      (∃ k, lookup kid = .error k ∧ e = .keyResolution k) ∨
      ∃ jwk, lookup kid = .ok jwk ∧ VerifyingKey.ofJwk? jwk = none ∧ e = refuse .base64 := by
  unfold resolveKey
  cases lookup kid with
  | error k => simp [eq_comm]
  | ok jwk =>
    cases hkey : VerifyingKey.ofJwk? jwk with
    | none => simp [hkey, eq_comm]
    | some key => simp [hkey]

theorem claims_eq_error_iff :
    d.claims now key token = .error e ↔
      ∃ t, SignedToken.claims d.policy d.subject now key token = .error t ∧ e = refuse t := by
  unfold claims
  cases SignedToken.claims d.policy d.subject now key token with
  | error t => simp [eq_comm]
  | ok found => simp

theorem readPayload_eq_error_iff :
    readPayload read members = .error e ↔
      ∃ cause, read members = .error cause ∧ e = .invalidPayload payloadFailed (some cause) := by
  unfold readPayload
  cases read members with
  | error cause => simp [eq_comm]
  | ok found => simp

/-! ## The stages together -/

/-- A token is refused with an error before its claims are known. -/
inductive Refused (d : Decoder) (lookup : String → Except KeyStoreError Jwk) (now : Nat)
    (token : String) : AuthError → Prop
  | header {t : TokenError} (htoken : TokenHeader.ofToken token = .error t) :
    Refused d lookup now token (.invalidToken keyIdFailed (some (.token t)))
  | keyId (hlacks : LacksKeyId token) :
    Refused d lookup now token (.invalidToken keyIdFailed none)
  | lookup {kid : String} {k : KeyStoreError} (hkid : CarriesKeyId token kid)
    (hlookup : lookup kid = .error k) : Refused d lookup now token (.keyResolution k)
  | key {kid : String} {jwk : Jwk} (hkid : CarriesKeyId token kid) (hjwk : lookup kid = .ok jwk)
    (hkey : VerifyingKey.ofJwk? jwk = none) : Refused d lookup now token (refuse .base64)
  | claims {kid : String} {jwk : Jwk} {key : VerifyingKey} {t : TokenError}
    (hkid : CarriesKeyId token kid) (hjwk : lookup kid = .ok jwk)
    (hkey : VerifyingKey.ofJwk? jwk = some key)
    (hclaims : SignedToken.claims d.policy d.subject now key token = .error t) :
    Refused d lookup now token (refuse t)

/-- A reader that accepts everything leaves only the errors from before it. -/
theorem decode_rawClaims_eq_error_iff :
    d.decode rawClaims lookup now token = .error e ↔ Refused d lookup now token e := by
  simp only [decode, bind_eq_error_iff, keyId_eq_error_iff, resolveKey_eq_error_iff,
    claims_eq_error_iff, readPayload_eq_error_iff, keyId_eq_ok_iff_carries, resolveKey_eq_ok_iff]
  constructor
  · rintro ((⟨t, htoken, rfl⟩ | ⟨hlacks, rfl⟩) | ⟨kid, hkid, hrest⟩)
    · exact .header htoken
    · exact .keyId hlacks
    -- From here on the header has a key id, and the store is asked for it.
    rcases hrest with (⟨k, hlookup, rfl⟩ | ⟨jwk, hjwk, hkey, rfl⟩) | ⟨key, ⟨jwk, hjwk, hkey⟩, hrest⟩
    · exact .lookup hkid hlookup
    · exact .key hkid hjwk hkey
    rcases hrest with ⟨t, hclaims, rfl⟩ | ⟨members, _, cause, hread, _⟩
    · exact .claims hkid hjwk hkey hclaims
    · cases hread
  · intro h
    cases h with
    | header htoken => exact .inl (.inl ⟨_, htoken, rfl⟩)
    | keyId hlacks => exact .inl (.inr ⟨hlacks, rfl⟩)
    | lookup hkid hlookup => exact .inr ⟨_, hkid, .inl (.inl ⟨_, hlookup, rfl⟩)⟩
    | key hkid hjwk hkey => exact .inr ⟨_, hkid, .inl (.inr ⟨_, hjwk, hkey, rfl⟩)⟩
    | claims hkid hjwk hkey hclaims =>
      exact .inr ⟨_, hkid, .inr ⟨_, ⟨_, hjwk, hkey⟩, .inl ⟨_, hclaims, rfl⟩⟩⟩

/-- Decoding fails as it does for the reader of raw claims, or the claims make no payload. -/
theorem decode_eq_error_iff :
    d.decode read lookup now token = .error e ↔
      Refused d lookup now token e ∨
      ∃ members cause, d.decode rawClaims lookup now token = .ok members ∧
        read members = .error cause ∧ e = .invalidPayload payloadFailed (some cause) := by
  rw [decode_eq_bind_rawClaims, bind_eq_error_iff, decode_rawClaims_eq_error_iff]
  simp only [readPayload_eq_error_iff, exists_and_left]

/-! ## Reading the stage off the error -/

theorem refused_keyResolution_iff {k : KeyStoreError} :
    Refused d lookup now token (.keyResolution k) ↔
      ∃ kid, CarriesKeyId token kid ∧ lookup kid = .error k := by
  constructor
  · intro h
    cases h with
    | lookup hkid hlookup => exact ⟨_, hkid, hlookup⟩
  · rintro ⟨kid, hkid, hlookup⟩
    exact .lookup hkid hlookup

theorem refused_keyIdFailed_iff {cause : Option Cause} :
    Refused d lookup now token (.invalidToken keyIdFailed cause) ↔
      (∃ t, TokenHeader.ofToken token = .error t ∧ cause = some (.token t)) ∨
      LacksKeyId token ∧ cause = none := by
  have hne : keyIdFailed ≠ decodeFailed := by decide
  constructor
  · intro h
    generalize he : AuthError.invalidToken keyIdFailed cause = e at h
    cases h with
    | header htoken => exact .inl ⟨_, htoken, (AuthError.invalidToken.inj he).2⟩
    | keyId hlacks => exact .inr ⟨hlacks, (AuthError.invalidToken.inj he).2⟩
    | lookup => cases he
    -- The stages after the key id have another text.
    | key => exact absurd (AuthError.invalidToken.inj he).1 hne
    | claims => exact absurd (AuthError.invalidToken.inj he).1 hne
  · rintro (⟨t, htoken, rfl⟩ | ⟨hlacks, rfl⟩)
    · exact .header htoken
    · exact .keyId hlacks

theorem refused_decodeFailed_iff {cause : Option Cause} :
    Refused d lookup now token (.invalidToken decodeFailed cause) ↔
      ∃ kid jwk t, CarriesKeyId token kid ∧ lookup kid = .ok jwk ∧ cause = some (.token t) ∧
        (VerifyingKey.ofJwk? jwk = none ∧ t = .base64 ∨
          ∃ key, VerifyingKey.ofJwk? jwk = some key ∧
            SignedToken.claims d.policy d.subject now key token = .error t) := by
  have hne : decodeFailed ≠ keyIdFailed := by decide
  constructor
  · intro h
    generalize he : AuthError.invalidToken decodeFailed cause = e at h
    cases h with
    | header => exact absurd (AuthError.invalidToken.inj he).1 hne
    | keyId => exact absurd (AuthError.invalidToken.inj he).1 hne
    | lookup => cases he
    | key hkid hjwk hkey =>
      exact ⟨_, _, _, hkid, hjwk, (AuthError.invalidToken.inj he).2, .inl ⟨hkey, rfl⟩⟩
    | claims hkid hjwk hkey hclaims =>
      exact ⟨_, _, _, hkid, hjwk, (AuthError.invalidToken.inj he).2, .inr ⟨_, hkey, hclaims⟩⟩
  · rintro ⟨kid, jwk, t, hkid, hjwk, rfl, ⟨hkey, rfl⟩ | ⟨key, hkey, hclaims⟩⟩
    · exact .key hkid hjwk hkey
    · exact .claims hkid hjwk hkey hclaims

theorem not_refused_invalidPayload {text : String} {cause : Option Cause} :
    ¬Refused d lookup now token (.invalidPayload text cause) := by
  intro h
  cases h

/-- An ordinary payload is not handed out because the token is refused, or because the claims that
are handed out for it have an error. -/
theorem decode_payload_eq_error_iff :
    d.decode Decoder.payload lookup now token = .error e ↔
      Refused d lookup now token e ∨
      ∃ members fault, d.decode rawClaims lookup now token = .ok members ∧
        Payload.ofClaims members = .error fault ∧
          e = .invalidPayload payloadFailed (some (.claims fault)) := by
  rw [decode_eq_error_iff]
  refine or_congr_right (exists_congr fun members => ?_)
  simp only [Decoder.payload, mapError_eq_error_iff]
  constructor
  · rintro ⟨_, hraw, ⟨fault, hfault, rfl⟩, he⟩
    exact ⟨fault, hraw, hfault, he⟩
  · rintro ⟨fault, hraw, hfault, he⟩
    exact ⟨_, hraw, ⟨fault, hfault, rfl⟩, he⟩

/-- The kind and the text of an error say which stage it comes from, and with them its cause: the
key id, the store, the key and the check of the token, or the reading of its claims. There are no
other errors, and where there is none the payload is read from the claims. -/
theorem failure_names_its_stage {σ : Type} (d : Decoder) (store : KeyStore σ) (state : σ)
    (now : Nat) (token : String) :
    let raw := d.decode rawClaims (store.get state) now token
    let decoded := d.decode Decoder.payload (store.get state) now token
    (∀ p, decoded = .ok p ↔ ∃ members, raw = .ok members ∧ Payload.ofClaims members = .ok p) ∧
    (∀ k, decoded = .error (.keyResolution k) ↔
      ∃ kid, CarriesKeyId token kid ∧ store.get state kid = .error k) ∧
    (∀ text cause, decoded = .error (.invalidPayload text cause) ↔
      ∃ members fault, raw = .ok members ∧ Payload.ofClaims members = .error fault ∧
        text = payloadFailed ∧ cause = some (.claims fault)) ∧
    (∀ cause, decoded = .error (.invalidToken keyIdFailed cause) ↔
      (∃ t, TokenHeader.ofToken token = .error t ∧ cause = some (.token t)) ∨
      LacksKeyId token ∧ cause = none) ∧
    (∀ cause, decoded = .error (.invalidToken decodeFailed cause) ↔
      ∃ kid jwk t, CarriesKeyId token kid ∧ store.get state kid = .ok jwk ∧
        cause = some (.token t) ∧
        (VerifyingKey.ofJwk? jwk = none ∧ t = .base64 ∨
          ∃ key, VerifyingKey.ofJwk? jwk = some key ∧
            SignedToken.claims d.policy d.subject now key token = .error t)) ∧
    ((∃ p, decoded = .ok p) ∨ (∃ k, decoded = .error (.keyResolution k)) ∨
      (∃ text cause, decoded = .error (.invalidPayload text cause)) ∨
      (∃ cause, decoded = .error (.invalidToken keyIdFailed cause)) ∨
      ∃ cause, decoded = .error (.invalidToken decodeFailed cause)) := by
  intro raw decoded
  -- An attempt is refused as `Refused` says or fails in the payload; each part below keeps the ways
  -- that lead to its error.
  have herror : ∀ e, decoded = .error e ↔ _ := fun e => decode_payload_eq_error_iff
  refine ⟨?_, ?_, ?_, ?_, ?_, ?_⟩
  · intro p
    refine decode_eq_ok_iff_rawClaims.trans (exists_congr fun members => ?_)
    simp only [Decoder.payload, mapError_eq_ok_iff, raw]
  · intro k
    rw [herror, refused_keyResolution_iff]
    simp
  · intro text cause
    rw [herror, or_iff_right not_refused_invalidPayload]
    simp only [AuthError.invalidPayload.injEq, raw]
  · intro cause
    rw [herror, refused_keyIdFailed_iff]
    simp
  · intro cause
    rw [herror, refused_decodeFailed_iff]
    simp
  -- No other variant occurs: the ways to be refused are all there is.
  · cases hdecoded : decoded with
    | ok p => exact .inl ⟨p, rfl⟩
    | error e =>
      right
      rcases (herror e).1 hdecoded with hrefused | ⟨_, _, _, _, rfl⟩
      · cases hrefused with
        | lookup => exact .inl ⟨_, rfl⟩
        | header | keyId => exact .inr (.inr (.inl ⟨_, rfl⟩))
        | key | claims => exact .inr (.inr (.inr ⟨_, rfl⟩))
      · exact .inr (.inl ⟨_, _, rfl⟩)

end Decoder

end BearerAuth
