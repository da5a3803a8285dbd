import BearerAuth.Proofs.Credentials
import BearerAuth.Proofs.Decoder.Basic
import BearerAuth.Proofs.KeyStore
import BearerAuth.Session

/-!
# Rotation takes effect at once

Sessions over one store in memory authenticate requests, and in between the key set of the store is
replaced. The main statement here says that each authentication is judged with the set that was
installed last before it and with nothing else of the past: it succeeds only under a key of that
set, and a key id that the set lacks is refused whatever has been accepted before. Authentications
leave the store as it is.

The verifiers and hooks of the sessions act on surroundings of their own, which do not contain the
store.
-/

namespace BearerAuth

variable {ι τ π : Type}

/-! ## Sessions over a store -/

/-- What a session over a key store is made from. -/
structure Gate (τ π : Type) where
  decoder : Decoder
  /-- Reads a payload from claims. -/
  read : Json.Members → Except Cause π
  verify : τ → BearerToken → π → τ × Except AuthError Unit
  raises : Bool
  hooks : List (τ → Rejection → τ)

namespace Gate

/-- The authenticator of a gate at a given time. Its surroundings are the state of a store in memory
and those of verifier and hooks. -/
def authenticator (g : Gate τ π) (now : Nat) : Authenticator (InstalledSet × τ) π where
  decode world token :=
    (world, g.decoder.decode g.read (KeyStore.memory.get world.1) now token.text)
  verify world token payload :=
    let (rest, result) := g.verify world.2 token payload
    ((world.1, rest), result)
  raises := g.raises
  hooks := g.hooks.map fun hook world r => (world.1, hook world.2 r)

/-- How a request is judged with a key set at a given time. The surroundings matter to the verifier
only. -/
def judge (g : Gate τ π) (set : JwkSet) (now : Nat) (rest : τ) (headers : List Header) :
    Except AuthError π := do
  let token ← Credentials.token headers
  let payload ← g.decoder.decode g.read set.lookup now token.text
  (g.verify rest token payload).2
  return payload

end Gate

/-- Sessions over one store in memory. -/
structure Site (ι τ π : Type) where
  store : InstalledSet
  /-- The surroundings of verifiers and hooks. -/
  rest : τ
  sessions : ι → Session π

/-- What happens at a site. -/
inductive Occurrence (ι : Type) where
  | install (set : JwkSet)
  | authenticate (session : ι) (now : Nat) (headers : List Header)

def Occurrence.set? : Occurrence ι → Option JwkSet
  | install set => some set
  | authenticate _ _ _ => none

/-- The sets that are installed, in order. -/
def installedSets (events : List (Occurrence ι)) : List JwkSet :=
  events.filterMap Occurrence.set?

/-- A store after some events, as the installations among them leave it: it holds the last set, or
the one it had before when there was none, and has counted the installations. -/
def InstalledSet.after (store : InstalledSet) (events : List (Occurrence ι)) : InstalledSet :=
  ⟨(installedSets events).getLast?.getD store.set, store.number + (installedSets events).length⟩

namespace Site

variable [DecidableEq ι]

/-- Authenticates a request in one of the sessions. -/
def authenticate (gates : ι → Gate τ π) (site : Site ι τ π) (i : ι) (now : Nat)
    (headers : List Header) : Site ι τ π × Except Rejection Unit :=
  let ((store, rest), session, result) :=
    (site.sessions i).authenticate ((gates i).authenticator now) (site.store, site.rest) headers
  (⟨store, rest, fun j => if j = i then session else site.sessions j⟩, result)

def step (gates : ι → Gate τ π) (site : Site ι τ π) : Occurrence ι → Site ι τ π
  | .install set => { site with store := (KeyStore.memory.install site.store set).1 }
  | .authenticate i now headers => (site.authenticate gates i now headers).1

/-- The site after a sequence of events. -/
def run (gates : ι → Gate τ π) (site : Site ι τ π) (events : List (Occurrence ι)) : Site ι τ π :=
  events.foldl (step gates) site

end Site

/-- A session shows how an attempt ended: it holds the payload, or its mode says whether the
rejection has been returned or recorded. -/
inductive Session.Shows (raises : Bool) (before : Session π) :
    Session π → Except Rejection Unit → Except AuthError π → Prop
  | accepted (p : π) : Shows raises before ⟨some p, before.errors⟩ (.ok ()) (.ok p)
  | raised (e : AuthError) (hmode : raises = true) :
    Shows raises before ⟨none, before.errors⟩ (.error (.ofError e)) (.error e)
  | recorded (e : AuthError) (hmode : raises = false) :
    Shows raises before ⟨none, before.errors ++ [.ofError e]⟩ (.ok ()) (.error e)

namespace Session.Shows

variable {raises : Bool} {before after : Session π} {result : Except Rejection Unit}
  {outcome : Except AuthError π} {p : π} {e : AuthError}

/-- A session shows a payload only where the attempt ended with it. -/
theorem eq_ok (h : Shows raises before after result outcome) (hp : after.payload = some p) :
    outcome = .ok p := by
  cases h with
  | accepted q => exact congrArg Except.ok (Option.some.inj hp)
  | raised e _ => cases hp
  | recorded e _ => cases hp

theorem payload_eq (h : Shows raises before after result (.ok p)) : after.payload = some p := by
  cases h
  rfl

theorem result_eq (h : Shows true before after result (.error e)) :
    result = .error (.ofError e) := by
  cases h with
  | raised _ _ => rfl
  | recorded _ hmode => cases hmode

end Session.Shows

theorem Session.authenticate_shows {σ : Type} (s : Session π) (a : Authenticator σ π) (world : σ)
    (headers : List Header) :
    Shows a.raises s (s.authenticate a world headers).2.1 (s.authenticate a world headers).2.2
      (a.attempt world headers).2 := by
  unfold authenticate
  rcases a.attempt world headers with ⟨world', e | p⟩
  · cases hmode : a.raises with
    | true => exact .raised e rfl
    | false => exact .recorded e rfl
  · exact .accepted p

namespace Gate

variable (g : Gate τ π) (store : InstalledSet) (rest : τ) (now : Nat) (headers : List Header)

/-- An attempt asks the store for its set and leaves it there. -/
theorem attempt_authenticator :
    ((g.authenticator now).attempt (store, rest) headers).1.1 = store ∧
      ((g.authenticator now).attempt (store, rest) headers).2 =
        g.judge store.set now rest headers := by
  unfold Authenticator.attempt judge
  cases Credentials.token headers with
  | error e => exact ⟨rfl, rfl⟩
  | ok token =>
    have hget : KeyStore.memory.get store = store.set.lookup := rfl
    simp only [Authenticator.check, authenticator, hget, bind, Except.bind]
    cases g.decoder.decode g.read store.set.lookup now token.text with
    | error e => exact ⟨rfl, rfl⟩
    | ok payload =>
      rcases hverify : g.verify rest token payload with ⟨rest', e | _⟩
      · simp [hverify]
      · simp [hverify, pure, Except.pure]

/-- The hooks leave the store as it is. -/
theorem notify_authenticator (r : Rejection) :
    ((g.authenticator now).notify (store, rest) r).1 = store := by
  unfold Authenticator.notify authenticator
  induction g.hooks generalizing rest with
  | nil => rfl
  | cons hook hooks ih => exact ih (hook rest r)

theorem authenticate_store (s : Session π) :
    (s.authenticate (g.authenticator now) (store, rest) headers).1.1 = store := by
  have hattempt := (g.attempt_authenticator store rest now headers).1
  unfold Session.authenticate
  rcases h : (g.authenticator now).attempt (store, rest) headers with ⟨⟨store', rest'⟩, e | p⟩
  · have hsame : store' = store := by simpa [h] using hattempt
    -- The rejection is returned or recorded after the hooks have heard of it.
    cases (g.authenticator now).raises with
    | true => simp [notify_authenticator, hsame]
    | false => simp [notify_authenticator, hsame]
  · simpa [h] using hattempt

end Gate

/-! ## The store in a run -/

theorem InstalledSet.after_cons (store : InstalledSet) (e : Occurrence ι)
    (events : List (Occurrence ι)) :
    store.after (e :: events) = (store.after [e]).after events := by
  cases e with
  | install set =>
    simp only [InstalledSet.after, installedSets, Occurrence.set?, List.filterMap_cons,
      List.filterMap_nil, List.getLast?_cons, List.getLast?_nil, Option.getD_some,
      Option.getD_none, List.length_cons, List.length_nil, InstalledSet.mk.injEq, true_and]
    omega
  | authenticate i now headers =>
    simp [InstalledSet.after, installedSets, List.filterMap_cons, Occurrence.set?]

namespace Site

variable [DecidableEq ι] (gates : ι → Gate τ π) (site : Site ι τ π)

theorem authenticate_store (i : ι) (now : Nat) (headers : List Header) :
    (site.authenticate gates i now headers).1.store = site.store :=
  (gates i).authenticate_store site.store site.rest now headers (site.sessions i)

/-- One event changes the store only by installing a set. -/
theorem step_store (e : Occurrence ι) : (site.step gates e).store = site.store.after [e] := by
  cases e with
  | install set => rfl
  | authenticate i now headers => exact authenticate_store gates site i now headers

/-- After any run the store holds the set that was installed last. -/
theorem run_store (events : List (Occurrence ι)) :
    (site.run gates events).store = site.store.after events := by
  induction events generalizing site with
  | nil => rfl
  | cons e events ih =>
    rw [run, List.foldl_cons, ← run, ih, step_store, ← InstalledSet.after_cons]

theorem authenticate_shows (i : ι) (now : Nat) (headers : List Header) :
    Session.Shows (gates i).raises (site.sessions i)
      ((site.authenticate gates i now headers).1.sessions i)
      (site.authenticate gates i now headers).2
      ((gates i).judge site.store.set now site.rest headers) := by
  have hshows := (site.sessions i).authenticate_shows ((gates i).authenticator now)
    (site.store, site.rest) headers
  rw [((gates i).attempt_authenticator site.store site.rest now headers).2] at hshows
  simp only [authenticate, if_true]
  exact hshows

end Site

/-! ## What a judgement depends on -/

namespace Gate

variable {g : Gate τ π} {set : JwkSet} {rest : τ} {now : Nat} {headers : List Header}

theorem judge_eq_ok_iff {p : π} :
    g.judge set now rest headers = .ok p ↔
      ∃ token, Credentials.token headers = .ok token ∧
        g.decoder.decode g.read set.lookup now token.text = .ok p ∧
          (g.verify rest token p).2 = .ok () := by
  simp only [judge, bind_eq_ok_iff, pure, Except.pure]
  constructor
  · rintro ⟨token, htoken, payload, hdecode, ⟨⟩, hverify, hp⟩
    obtain rfl : payload = p := Except.ok.inj hp
    exact ⟨token, htoken, hdecode, hverify⟩
  · rintro ⟨token, htoken, hdecode, hverify⟩
    exact ⟨token, htoken, p, hdecode, (), hverify, rfl⟩

/-- A request is let through only for a token whose signature is trusted under the first key that
the set has for its key id. -/
theorem exists_trusted_of_judge {p : π} (h : g.judge set now rest headers = .ok p) :
    ∃ token parts header kid jwk key, Credentials.token headers = .ok token ∧
      TokenHeader.ofToken token.text = .ok (parts, header) ∧ header.kid = some kid ∧
        set.HasFirst kid jwk ∧ VerifyingKey.ofJwk? jwk = some key ∧
          SignedToken.Trusted g.decoder.policy key parts header := by
  rcases judge_eq_ok_iff.1 h with ⟨token, htoken, hdecode, _⟩
  rcases Decoder.decode_eq_ok_iff.1 hdecode with
    ⟨kid, jwk, key, members, hkid, hjwk, hkey, hclaims, _⟩
  rcases SignedToken.keyId_eq_ok_iff.1 hkid with ⟨parts, header, hheader, hkid⟩
  rcases SignedToken.claims_eq_ok_iff.1 (Decoder.claims_eq_ok_iff.1 hclaims) with
    ⟨parts', header', _, hheader', htrusted, _⟩
  -- The key id and the signature are read from the same token.
  obtain ⟨rfl, rfl⟩ : parts' = parts ∧ header' = header := by
    simpa using hheader'.symm.trans hheader
  exact ⟨token, parts', header', kid, jwk, key, htoken, hheader, hkid,
    JwkSet.lookup_eq_ok_iff.1 hjwk, hkey, htrusted⟩

/-- A key id that the set lacks is the reason to refuse a token. -/
theorem judge_eq_keyNotFound {token : BearerToken} {parts : CompactToken} {header : TokenHeader}
    {kid : String} (htoken : Credentials.token headers = .ok token)
    (hheader : TokenHeader.ofToken token.text = .ok (parts, header)) (hkid : header.kid = some kid)
    (hset : ¬set.HasKeyId kid) :
    g.judge set now rest headers = .error (.keyResolution (.keyNotFound kid)) := by
  have hread : Decoder.keyId token.text = .ok kid :=
    Decoder.keyId_eq_ok_iff.2 (SignedToken.keyId_eq_ok_iff.2 ⟨parts, header, hheader, hkid⟩)
  have hlookup : set.lookup kid = .error (.keyNotFound kid) :=
    JwkSet.lookup_eq_error_iff.2 ⟨hset, rfl⟩
  simp [judge, htoken, Decoder.decode, hread, Decoder.resolveKey, hlookup, bind, Except.bind]

end Gate

namespace Site

variable [DecidableEq ι]

/-- Whatever has happened at a site, the store holds the set that was installed last, and an
authentication leaves it there and shows how its request is judged with this set. If it lets the
request through, then the token has a key id of the set and a signature that is trusted under the
first key with it; and a token with a key id that the set lacks is refused, for that very reason if
its algorithm is allowed. -/
theorem rotation_takes_effect (gates : ι → Gate τ π) (initial : Site ι τ π)
    (events : List (Occurrence ι)) (i : ι) (now : Nat) (headers : List Header) :
    let site := initial.run gates events
    let set := (installedSets events).getLast?.getD initial.store.set
    let after := site.authenticate gates i now headers
    let Shows := Session.Shows (gates i).raises (site.sessions i) (after.1.sessions i) after.2
    site.store = ⟨set, initial.store.number + (installedSets events).length⟩ ∧
      after.1.store = site.store ∧
      Shows ((gates i).judge set now site.rest headers) ∧
      (∀ p, (after.1.sessions i).payload = some p →
        ∃ token parts header kid jwk key, Credentials.token headers = .ok token ∧
          TokenHeader.ofToken token.text = .ok (parts, header) ∧ header.kid = some kid ∧
            set.HasFirst kid jwk ∧ VerifyingKey.ofJwk? jwk = some key ∧
              SignedToken.Trusted (gates i).decoder.policy key parts header) ∧
      ∀ token parts header kid, Credentials.token headers = .ok token →
        TokenHeader.ofToken token.text = .ok (parts, header) → header.kid = some kid →
          ¬set.HasKeyId kid →
            ∃ e, Shows (.error e) ∧ (header.algorithm ∈ (gates i).decoder.policy.algorithms →
              e = .keyResolution (.keyNotFound kid)) := by
  intro site set after Shows
  -- Attempts leave the store as it is, so it shows the installations alone.
  have hstore : site.store = initial.store.after events := run_store gates initial events
  have hset : site.store.set = set := congrArg InstalledSet.set hstore
  have hshows : Shows ((gates i).judge set now site.rest headers) :=
    hset ▸ authenticate_shows gates site i now headers
  refine ⟨hstore, authenticate_store gates site i now headers, hshows, ?_, ?_⟩
  · intro p hp
    exact Gate.exists_trusted_of_judge (hshows.eq_ok hp)
  · intro token parts header kid htoken hheader hkid hlacks
    refine ⟨.keyResolution (.keyNotFound kid), ?_, fun _ => rfl⟩
    rw [Gate.judge_eq_keyNotFound htoken hheader hkid hlacks] at hshows
    exact hshows

end Site

namespace Sample

def gates : Unit → Gate Unit Payload :=
  fun _ => ⟨decoder, Decoder.payload, fun rest _ _ => (rest, .ok ()), true, []⟩

/-- A site without keys. -/
def site : Site Unit Unit Payload := ⟨.initial .empty, (), fun _ => .start⟩

def headers : List Header := [Credentials.bearer parts.chars]

theorem headers_token : Credentials.token headers = .ok ⟨token⟩ :=
  Credentials.token_bearer (by decide +kernel)

theorem judge_headers (rest : Unit) : (gates ()).judge keys now rest headers = .ok payload :=
  Gate.judge_eq_ok_iff.2 ⟨⟨token⟩, headers_token, decode_token, rfl⟩

/-- The keys are installed after a first attempt. -/
def early : List (Occurrence Unit) := [.authenticate () now headers, .install keys]

/-- The keys are withdrawn after a second attempt. -/
def late : List (Occurrence Unit) := early ++ [.authenticate () now headers, .install .empty]

theorem installedSets_early : installedSets early = [keys] := rfl

theorem installedSets_late : installedSets late = [keys, .empty] := rfl

def attemptAfter (events : List (Occurrence Unit)) :
    Site Unit Unit Payload × Except Rejection Unit :=
  (site.run gates events).authenticate gates () now headers

end Sample

namespace Site

/-- The sample token is let through as soon as the set with its key has been installed, and refused
again as soon as another set has. -/
theorem sample_key_rotated :
    Credentials.token Sample.headers = .ok ⟨Sample.token⟩ ∧
      TokenHeader.ofToken Sample.token = .ok (Sample.parts, ⟨.EdDSA, some "k"⟩) ∧
      ((Sample.attemptAfter Sample.early).1.sessions ()).payload = some Sample.payload ∧
      (∃ jwk, Sample.keys.HasFirst "k" jwk) ∧ ¬JwkSet.empty.HasKeyId "k" ∧
      (Sample.attemptAfter Sample.late).2 =
        .error (.ofError (.keyResolution (.keyNotFound "k"))) := by
  obtain ⟨_, _, hshows, hkey, _⟩ :=
    rotation_takes_effect Sample.gates Sample.site Sample.early () Sample.now Sample.headers
  obtain ⟨_, _, _, _, hrefuses⟩ :=
    rotation_takes_effect Sample.gates Sample.site Sample.late () Sample.now Sample.headers
  simp only [Sample.installedSets_early, Sample.installedSets_late, List.getLast?_singleton,
    List.getLast?_cons_cons, Option.getD_some, ← Sample.attemptAfter.eq_1, Sample.judge_headers]
    at hshows hkey hrefuses
  have hpayload : ((Sample.attemptAfter Sample.early).1.sessions ()).payload =
      some Sample.payload := hshows.payload_eq
  obtain ⟨token, parts, header, kid, jwk, _, htoken, hheader, hkid, hfirst, _⟩ :=
    hkey Sample.payload hpayload
  obtain rfl : token = ⟨Sample.token⟩ := Except.ok.inj (htoken.symm.trans Sample.headers_token)
  have hread : (parts, header) = (Sample.parts, ⟨.EdDSA, some "k"⟩) :=
    Except.ok.inj (hheader.symm.trans Sample.header_of_token)
  obtain rfl : kid = "k" := by
    rw [(Prod.mk.inj hread).2] at hkid
    exact (Option.some.inj hkid).symm
  have hlacks : ¬JwkSet.empty.HasKeyId "k" := by simp [JwkSet.HasKeyId, JwkSet.empty]
  obtain ⟨e, hrefused, hreason⟩ :=
    hrefuses _ _ _ _ Sample.headers_token Sample.header_of_token rfl hlacks
  obtain rfl : e = .keyResolution (.keyNotFound "k") := hreason (by decide)
  exact ⟨Sample.headers_token, Sample.header_of_token, hpayload, ⟨jwk, hfirst⟩, hlacks,
    hrefused.result_eq⟩

end Site

end BearerAuth
