import BearerAuth.Introspection.Client
import BearerAuth.Proofs.Credentials
import BearerAuth.Proofs.Decoder.Failure
import BearerAuth.Proofs.Session.History
import BearerAuth.Proofs.Session.Rotation
import BearerAuth.Verifier

/-!
# When a client is asked for credentials

A guard decodes tokens with the keys of a store and accepts them with one of the verifiers of the
library. The main statement here says that its rejections ask for credentials exactly when the
request does not carry a token, and that a token which the request does carry reaches the decoder
once and unchanged. Whatever stops it from there on is a refusal, and the refusal says at which
stage.

The surroundings hold the keys, the time and the endpoint of the introspection. Decoding, verifying
and the hooks may change all of it.
-/

namespace BearerAuth

variable {σ π : Type}

/-! ## Guards -/

/-- The verifiers of the library, by the payloads that they look at. -/
inductive StandardVerifier : Type → Type 1
  | acceptAll {π : Type} : StandardVerifier π
  | requireScopes (required : List String) : StandardVerifier Payload
  | introspect (v : IntrospectionVerifier) : StandardVerifier Payload

def StandardVerifier.verify (endpoint : Http.Endpoint) :
    StandardVerifier π → BearerToken → π → Except AuthError Unit
  | acceptAll, _, payload => Verifier.acceptAll payload
  | requireScopes required, _, payload => Verifier.requireScopes required payload
  | introspect v, token, payload => v.verify endpoint token payload

/-- What an authenticator over a key store is made from. -/
structure Guard (σ π : Type) where
  decoder : Decoder
  /-- Reads a payload from claims. -/
  read : Json.Members → Except Cause π
  store : KeyStore σ
  /-- The time in seconds. -/
  clock : σ → Nat
  verifier : StandardVerifier π
  endpoint : σ → Http.Endpoint
  /-- What a call of the decoder leaves. -/
  afterDecoding : σ → BearerToken → σ
  /-- What a call of the verifier leaves. -/
  afterVerifying : σ → BearerToken → π → σ
  raises : Bool
  hooks : List (σ → Rejection → σ)

namespace Guard

/-- Decodes a token with a reader of payloads. -/
def decodeWith {α : Type} (g : Guard σ π) (read : Json.Members → Except Cause α) (world : σ)
    (token : BearerToken) : Except AuthError α :=
  g.decoder.decode read (g.store.get world) (g.clock world) token.text

def verify (g : Guard σ π) (world : σ) (token : BearerToken) (payload : π) :
    Except AuthError Unit :=
  g.verifier.verify (g.endpoint world) token payload

def authenticator (g : Guard σ π) : Authenticator σ π where
  decode world token := (g.afterDecoding world token, g.decodeWith g.read world token)
  verify world token payload :=
    (g.afterVerifying world token payload, g.verify world token payload)
  raises := g.raises
  hooks := g.hooks

end Guard

/-! ## Stages -/

/-- Where a token is stopped. -/
inductive Stage where
  /-- On the way to its claims. -/
  | token
  | payload
  | verification
  deriving DecidableEq, Repr

/-- What the detail of a refusal starts with. -/
def Stage.lead : Stage → String
  | token => "Invalid JWT: "
  | payload => "Invalid payload: "
  | verification => "Not verified: "

namespace Guard

variable {g : Guard σ π} {world : σ} {token : BearerToken} {stage : Stage} {e : AuthError}

/-- A token is stopped at a stage with an error. -/
inductive StopsAt (g : Guard σ π) (world : σ) (token : BearerToken) : Stage → AuthError → Prop
  | token {e : AuthError} (hraw : g.decodeWith Decoder.rawClaims world token = .error e) :
    StopsAt g world token .token e
  | payload {members : Json.Members} {cause : Cause}
    (hraw : g.decodeWith Decoder.rawClaims world token = .ok members)
    (hread : g.read members = .error cause) :
    StopsAt g world token .payload (.invalidPayload Decoder.payloadFailed (some cause))
  | verification {payload : π} {e : AuthError}
    (hdecode : g.decodeWith g.read world token = .ok payload)
    (hverify : g.verify (g.afterDecoding world token) token payload = .error e) :
    StopsAt g world token .verification e

theorem decodeWith_eq_error_iff :
    g.decodeWith g.read world token = .error e ↔
      g.StopsAt world token .token e ∨ g.StopsAt world token .payload e := by
  unfold decodeWith
  rw [Decoder.decode_eq_error_iff, ← Decoder.decode_rawClaims_eq_error_iff]
  constructor
  · rintro (hraw | ⟨members, cause, hraw, hread, rfl⟩)
    · exact .inl (.token hraw)
    · exact .inr (.payload hraw hread)
  · rintro (h | h)
    · cases h with
      | token hraw => exact .inl hraw
    · cases h with
      | payload hraw hread => exact .inr ⟨_, _, hraw, hread, rfl⟩

/-- A token that is checked ends in an error exactly when one of the stages stops it. -/
theorem check_eq_error_iff :
    (g.authenticator.check world token).2 = .error e ↔ ∃ stage, g.StopsAt world token stage e := by
  have hcheck : (g.authenticator.check world token).2 = .error e ↔
      g.decodeWith g.read world token = .error e ∨
        ∃ payload, g.decodeWith g.read world token = .ok payload ∧
          g.verify (g.afterDecoding world token) token payload = .error e := by
    simp only [Authenticator.check, authenticator]
    cases g.decodeWith g.read world token with
    | error e' => simp
    | ok payload => cases hverify : g.verify (g.afterDecoding world token) token payload with
      | error e' => simp [hverify]
      | ok _ => simp [hverify]
  rw [hcheck, decodeWith_eq_error_iff]
  -- Decoding has two of the three stages.
  constructor
  · rintro ((h | h) | ⟨payload, hdecode, hverify⟩)
    · exact ⟨_, h⟩
    · exact ⟨_, h⟩
    · exact ⟨_, .verification hdecode hverify⟩
  · rintro ⟨stage, h⟩
    cases stage with
    | token => exact .inl (.inl h)
    | payload => exact .inl (.inr h)
    | verification => cases h with
      | verification hdecode hverify => exact .inr ⟨_, hdecode, hverify⟩

end Guard

/-- The verifiers of the library have one kind of error. -/
theorem StandardVerifier.exists_of_verify {v : StandardVerifier π} {endpoint : Http.Endpoint}
    {token : BearerToken} {payload : π} {e : AuthError}
    (h : v.verify endpoint token payload = .error e) : ∃ text cause, e = .notVerified text cause := by
  cases v with
  | acceptAll => cases h
  | requireScopes required =>
    simp only [verify, Verifier.requireScopes] at h
    split at h
    · cases h
    · exact ⟨_, _, (Except.error.inj h).symm⟩
  | introspect v =>
    simp only [verify, IntrospectionVerifier.verify, IntrospectionVerifier.judge] at h
    split at h
    · exact ⟨_, _, (Except.error.inj h).symm⟩
    -- The endpoint has answered: the token is active or not, and the subject is right or not.
    · split at h
      · exact ⟨_, _, (Except.error.inj h).symm⟩
      · split at h
        · exact ⟨_, _, (Except.error.inj h).symm⟩
        · cases h

/-- A token that is stopped is refused, and the detail names the stage. -/
theorem Guard.StopsAt.rejection_eq {g : Guard σ π} {world : σ} {token : BearerToken}
    {stage : Stage} {e : AuthError} (h : g.StopsAt world token stage e) :
    Rejection.ofError e = ⟨.forbidden, stage.lead ++ e.message, e⟩ := by
  cases h with
  | token hraw =>
    -- The errors of this stage are of two kinds, and both have this lead.
    have hrefused := Decoder.decode_rawClaims_eq_error_iff.1 hraw
    cases hrefused with
    | header | keyId | lookup | key | claims => rfl
  | payload => rfl
  | verification _ hverify =>
    rcases StandardVerifier.exists_of_verify hverify with ⟨text, cause, rfl⟩
    rfl

/-! ## Requests -/

namespace Authenticator

variable {a : Authenticator σ π} {world : σ} {headers : List Header} {e : AuthError}

/-- An attempt fails where no token can be taken from the headers, or where the token fails. -/
theorem attempt_eq_error_iff :
    (a.attempt world headers).2 = .error e ↔
      Credentials.token headers = .error e ∨
      ∃ token, Credentials.token headers = .ok token ∧ (a.check world token).2 = .error e := by
  unfold attempt
  cases Credentials.token headers with
  | error e' => simp
  | ok token => simp

theorem attempt_eq_attempt_find? (a : Authenticator σ π) (world : σ) (headers : List Header) :
    a.attempt world headers =
      a.attempt world (headers.find? Credentials.isCarrier).toList := by
  unfold attempt
  rw [Credentials.token_eq_token_find?]

end Authenticator

/-- The token that a decoder is called with. -/
def Session.Visit.decoded? : Session.Visit π → Option BearerToken
  | decoder token => some token
  | verifier _ _ | hook _ _ => none

/-- The tokens that the decoder is called with when a session authenticates a request. -/
def Session.decodings (s : Session π) (a : Authenticator σ π) (world : σ) (headers : List Header) :
    List BearerToken :=
  (s.authenticate a.watched (world, []) headers).1.2.filterMap Session.Visit.decoded?

/-- The decoder is called with the token of the headers, once, and not at all without one. -/
theorem Session.decodings_eq (s : Session π) (a : Authenticator σ π) (world : σ)
    (headers : List Header) :
    s.decodings a world headers = (Credentials.token headers).toOption.toList := by
  rcases a.exists_goes headers world with ⟨t, world', hgoes⟩
  have hwatched : (s.authenticate a.watched (world, []) headers).1.2 =
      (Event.attempt t).visits a.hooks.length :=
    calc
      (s.authenticate a.watched (world, []) headers).1.2
          = (s.perform a.watched (world, []) (.authenticate headers)).1.2 := rfl
      _ = (a.watched.heard (world', [] ++ t.stages.map id) t).2 := by
        rw [a.watched_eq_watchedBy, (hgoes.watchedBy id []).perform_eq s]
      _ = (Event.attempt t).visits a.hooks.length := by
        rw [a.watched_eq_watchedBy, Authenticator.watchedBy_heard, List.nil_append, List.map_id]
  -- The hooks are called with rejections, not with tokens.
  have hhooks : ((Event.attempt t).visits a.hooks.length).filterMap Visit.decoded? =
      t.stages.filterMap Visit.decoded? := by
    cases hrejection : t.rejection? with
    | none => simp [Event.visits, hrejection]
    | some r => simp [Event.visits, hrejection, List.filterMap_map, Function.comp_def,
        Visit.decoded?]
  rw [decodings, hwatched, hhooks]
  cases hgoes with
  | withoutToken htoken => simp [htoken, Attempt.stages, Except.toOption]
  | undecoded htoken _ => simp [htoken, Attempt.stages, Visit.decoded?, Except.toOption]
  | unverified htoken _ _ => simp [htoken, Attempt.stages, Visit.decoded?, Except.toOption]
  | verified htoken _ _ => simp [htoken, Attempt.stages, Visit.decoded?, Except.toOption]

section Decodings

open Credentials (Absent Malformed Carries)

variable {s : Session π} {a : Authenticator σ π} {world : σ} {headers : List Header}

theorem Session.decodings_eq_nil_iff :
    s.decodings a world headers = [] ↔ Absent headers ∨ Malformed headers := by
  rw [decodings_eq, ← Credentials.token_eq_missing_iff, ← Credentials.token_eq_invalid_iff]
  cases htoken : Credentials.token headers with
  | ok token => simp [Except.toOption]
  | error e =>
    -- Taking a token has two errors.
    rcases Credentials.token_eq_error_iff.1 htoken with ⟨_, rfl⟩ | ⟨_, rfl⟩
    · simp [Except.toOption]
    · simp [Except.toOption]

theorem Session.decodings_eq_singleton_iff {token : BearerToken} :
    s.decodings a world headers = [token] ↔ Carries headers token := by
  rw [decodings_eq, ← Credentials.token_eq_ok_iff]
  cases Credentials.token headers with
  | ok token' => simp [Except.toOption]
  | error e => simp [Except.toOption]

end Decodings

namespace Guard

open Credentials (Absent Malformed Carries isCarrier missing invalid)

variable {g : Guard σ π} {world : σ} {headers : List Header} {token : BearerToken} {stage : Stage}
  {e : AuthError} {r : Rejection}

/-- The rejection of a request, if there is one, says that the credentials are missing or malformed,
or where the token has been stopped. -/
inductive Rejects (g : Guard σ π) (world : σ) (headers : List Header) : Rejection → Prop
  | absent (h : Absent headers) :
    Rejects g world headers
      ⟨.unauthorized, "Missing Credentials", .missingCredentials "Missing Credentials"⟩
  | malformed (h : Malformed headers) :
    Rejects g world headers
      ⟨.unauthorized, "Invalid Credentials", .invalidCredentials "Invalid Credentials"⟩
  | stopped {token : BearerToken} {stage : Stage} {e : AuthError} (htoken : Carries headers token)
    (hstop : g.StopsAt world token stage e) :
    Rejects g world headers ⟨.forbidden, stage.lead ++ e.message, e⟩

theorem attempt_eq_error_iff_rejects :
    (g.authenticator.attempt world headers).2.mapError Rejection.ofError = .error r ↔
      g.Rejects world headers r := by
  simp only [mapError_eq_error_iff, Authenticator.attempt_eq_error_iff, check_eq_error_iff]
  constructor
  · rintro ⟨e, htoken | ⟨token, htoken, stage, hstop⟩, rfl⟩
    · rcases Credentials.token_eq_error_iff.1 htoken with ⟨habsent, rfl⟩ | ⟨hmalformed, rfl⟩
      · exact .absent habsent
      · exact .malformed hmalformed
    · rw [hstop.rejection_eq]
      exact .stopped (Credentials.token_eq_ok_iff.1 htoken) hstop
  · intro h
    cases h with
    | absent h => exact ⟨missing, .inl (Credentials.token_eq_missing_iff.2 h), rfl⟩
    | malformed h => exact ⟨invalid, .inl (Credentials.token_eq_invalid_iff.2 h), rfl⟩
    | stopped htoken hstop =>
      exact ⟨_, .inr ⟨_, Credentials.token_eq_ok_iff.2 htoken, _, hstop⟩, hstop.rejection_eq⟩

theorem unauthorized_ne_forbidden : Http.Status.unauthorized ≠ Http.Status.forbidden := by
  decide

theorem rejects_missing_iff :
    g.Rejects world headers
        ⟨.unauthorized, "Missing Credentials", .missingCredentials "Missing Credentials"⟩ ↔
      Absent headers := by
  refine ⟨?_, .absent⟩
  intro h
  generalize hr : Rejection.mk .unauthorized "Missing Credentials" _ = r at h
  cases h with
  | absent h => exact h
  | malformed _ => exact absurd (congrArg Rejection.detail hr) (by decide)
  | stopped _ _ => exact absurd (congrArg Rejection.status hr) unauthorized_ne_forbidden

theorem rejects_invalid_iff :
    g.Rejects world headers
        ⟨.unauthorized, "Invalid Credentials", .invalidCredentials "Invalid Credentials"⟩ ↔
      Malformed headers := by
  refine ⟨?_, .malformed⟩
  intro h
  generalize hr : Rejection.mk .unauthorized "Invalid Credentials" _ = r at h
  cases h with
  | absent _ => exact absurd (congrArg Rejection.detail hr) (by decide)
  | malformed h => exact h
  | stopped _ _ => exact absurd (congrArg Rejection.status hr) unauthorized_ne_forbidden

theorem rejects_iff_of_carries (hcarries : Carries headers token) :
    g.Rejects world headers r ↔ ∃ stage e,
      g.StopsAt world token stage e ∧ r = ⟨.forbidden, stage.lead ++ e.message, e⟩ := by
  have htoken := Credentials.token_eq_ok_iff.2 hcarries
  constructor
  · intro h
    cases h with
    | absent h => cases htoken.symm.trans (Credentials.token_eq_missing_iff.2 h)
    | malformed h => cases htoken.symm.trans (Credentials.token_eq_invalid_iff.2 h)
    | stopped hcarries' hstop =>
      have htoken' := Credentials.token_eq_ok_iff.2 hcarries'
      -- Taking a token is a function of the headers.
      obtain rfl := Except.ok.inj (htoken.symm.trans htoken')
      exact ⟨_, _, hstop, rfl⟩
  · rintro ⟨stage, e, hstop, rfl⟩
    exact .stopped hcarries hstop

/-- A request is rejected for missing credentials exactly when they are absent, and for invalid ones
exactly when they are malformed; otherwise it carries a token. The decoder is called with this token
and no other, once, and the request is rejected exactly when a stage stops the token, as a refusal
that names the stage. A session of either mode shows this, and headers other than the first one for
credentials do not matter. -/
theorem asks_for_credentials_only_without_token (g : Guard σ π) (world : σ)
    (headers : List Header) :
    let a := g.authenticator
    let outcome := (a.attempt world headers).2
    let result := outcome.mapError Rejection.ofError
    (result = .error ⟨.unauthorized, "Missing Credentials",
        .missingCredentials "Missing Credentials"⟩ ↔ Absent headers) ∧
      (result = .error ⟨.unauthorized, "Invalid Credentials",
        .invalidCredentials "Invalid Credentials"⟩ ↔ Malformed headers) ∧
      (Absent headers ∨ Malformed headers ∨ ∃ token, Carries headers token) ∧
      (∀ token, Carries headers token → ∀ r, result = .error r ↔ ∃ stage e,
        g.StopsAt world token stage e ∧ r = ⟨.forbidden, stage.lead ++ e.message, e⟩) ∧
      ∀ s : Session π,
        Session.Shows g.raises s (s.authenticate a world headers).2.1
          (s.authenticate a world headers).2.2 outcome ∧
        (s.decodings a world headers = [] ↔ Absent headers ∨ Malformed headers) ∧
        (∀ token, s.decodings a world headers = [token] ↔ Carries headers token) ∧
        s.authenticate a world headers =
          s.authenticate a world (headers.find? isCarrier).toList := by
  intro a outcome result
  have hrejects : ∀ r, result = .error r ↔ g.Rejects world headers r :=
    fun r => attempt_eq_error_iff_rejects
  refine ⟨(hrejects _).trans rejects_missing_iff, (hrejects _).trans rejects_invalid_iff,
    Credentials.absent_or_malformed_or_carries headers, ?_, ?_⟩
  · intro token hcarries r
    exact (hrejects r).trans (rejects_iff_of_carries hcarries)
  · intro s
    refine ⟨s.authenticate_shows a world headers, Session.decodings_eq_nil_iff,
      fun token => Session.decodings_eq_singleton_iff, ?_⟩
    unfold Session.authenticate
    rw [Authenticator.attempt_eq_attempt_find?]

end Guard

namespace Sample

/-- The sample token in the first header for credentials, with others around it. -/
def mixedHeaders : List Header :=
  [⟨Text.Utf8.encode "Host", []⟩, Credentials.bearer parts.chars,
    ⟨Text.Utf8.encode "Authorization", Text.Utf8.encode "Basic eDp5"⟩]

/-- A guard that asks for a scope which the sample token does not have. -/
def scopeGuard : Guard Unit Payload where
  decoder := decoder
  read := Decoder.payload
  store := KeyStore.fixed keys
  clock _ := now
  verifier := .requireScopes ["Admin"]
  endpoint _ _ := none
  afterDecoding world _ := world
  afterVerifying world _ _ := world
  raises := true
  hooks := []

theorem mixedHeaders_carries : Credentials.Carries mixedHeaders ⟨token⟩ := by
  have hhost : Credentials.isCarrier ⟨Text.Utf8.encode "Host", []⟩ = false := by decide +kernel
  exact Credentials.carries_bearer (by decide +kernel) (List.forall_mem_singleton.2 hhost) _

theorem scopeGuard_stops :
    scopeGuard.StopsAt () ⟨token⟩ .verification
      (.notVerified "Missing required scopes: admin" none) := by
  have hverify : Verifier.requireScopes ["Admin"] payload =
      .error (.notVerified "Missing required scopes: admin" none) := by decide +kernel
  exact .verification decode_token hverify

end Sample

namespace Guard

/-- The token is taken from the first header for credentials and decodes, and the request is refused
for the scope that it lacks. -/
theorem sample_scope_refused :
    Credentials.Carries Sample.mixedHeaders ⟨Sample.token⟩ ∧
      (Session.start.authenticate Sample.scopeGuard.authenticator () Sample.mixedHeaders).2.2 =
        .error ⟨.forbidden, "Not verified: Missing required scopes: admin",
          .notVerified "Missing required scopes: admin" none⟩ := by
  obtain ⟨_, _, _, hstopped, hsession⟩ :=
    asks_for_credentials_only_without_token Sample.scopeGuard () Sample.mixedHeaders
  have hrejected := (hstopped _ Sample.mixedHeaders_carries _).2
    ⟨_, _, Sample.scopeGuard_stops, rfl⟩
  rcases mapError_eq_error_iff.1 hrejected with ⟨e, houtcome, hr⟩
  have hshows := (hsession Session.start).1
  rw [houtcome] at hshows
  refine ⟨Sample.mixedHeaders_carries, ?_⟩
  calc
    _ = .error (.ofError e) := hshows.result_eq
    _ = _ := congrArg Except.error hr

end Guard

end BearerAuth
