import BearerAuth.Http.Message
import BearerAuth.Http.Url.Basic
import BearerAuth.Json.Parser
import BearerAuth.KeyStore
import BearerAuth.Text.Utf8

/-!
# Fetching key sets

A fetcher downloads a key set from an endpoint and installs it in a store. A refresh is skipped when
the latest success is too recent, and a failure does not start the interval. The endpoint has to be
reached over a secure connection unless it is on the local host.

Each operation is told what the endpoint does and how late it is, and tells which requests it sent.
Times are in milliseconds.
-/

namespace BearerAuth

open Http

inductive EndpointError where
  | invalidUri (e : UrlError)
  | insecureUri (location : String)
  deriving DecidableEq, Repr

def EndpointError.message : EndpointError → String
  | invalidUri e => "Invalid JWKS endpoint: " ++ e.message
  | insecureUri location =>
    "JWKS endpoint must use HTTPS (HTTP only allowed for localhost): " ++ location

inductive FetchError where
  | http
  | status (status : Status)
  | invalidJwks
  /-- The store does not take the set. -/
  | store (e : KeyStoreError)
  deriving DecidableEq, Repr

/-- The text of an error that carries a status or an error of the store. -/
def FetchError.message? : FetchError → Option String
  | status s => some ("JWKS endpoint returned status " ++ s.text)
  | store e => some ("Failed to store JWKS: " ++ e.message)
  | http | invalidJwks => none

structure KeyFetcher where
  uri : Url
  /-- The least time between two successes. -/
  minInterval : Nat
  /-- The time of the latest success. -/
  lastSuccess : Option Nat
  deriving DecidableEq, Repr

/-- What an operation of a fetcher leads to. -/
structure FetchRun (σ α : Type) where
  /-- The requests that were sent. -/
  sent : List Message
  fetcher : KeyFetcher
  state : σ
  result : Except FetchError α

inductive RefreshOutcome where
  /-- A set of so many keys was installed. -/
  | refreshed (keys : Nat)
  /-- The latest success is too recent. -/
  | skipped
  deriving DecidableEq, Repr

namespace KeyFetcher

/-- The least time between two successes when nothing else is said. -/
def defaultInterval : Nat := 5000

def isLocal (uri : Url) : Bool :=
  uri.hostText?.any fun host => ["localhost", "127.0.0.1", "[::1]"].contains host

/-- Whether a location may be used as an endpoint. -/
def isSecure (uri : Url) : Bool :=
  uri.scheme = "https".toList || (uri.scheme = "http".toList && isLocal uri)

def ofLocation (location : String) : Except EndpointError KeyFetcher :=
  match Url.ofString location with
  | .error e => .error (.invalidUri e)
  | .ok uri =>
    if isSecure uri then .ok ⟨uri, defaultInterval, none⟩ else .error (.insecureUri uri.text)

def request (f : KeyFetcher) : Message :=
  ⟨.get, f.uri.text, none, []⟩

def readBody (body : List UInt8) : Except FetchError JwkSet :=
  match ((Text.Utf8.decode? body).bind Json.parse?).bind JwkSet.ofJson? with
  | some set => .ok set
  | none => .error .invalidJwks

def fetch (f : KeyFetcher) (endpoint : Endpoint) : Except FetchError JwkSet :=
  match endpoint f.request with
  | none => .error .http
  | some r => if r.status.isSuccess then readBody r.body else .error (.status r.status)

/-- Downloads the key set and installs it; when that succeeds, it is the time `now`. The outcome is
the number of keys. -/
def load {σ : Type} (f : KeyFetcher) (store : KeyStore σ) (endpoint : Endpoint) (now : Nat)
    (state : σ) : FetchRun σ Nat :=
  match f.fetch endpoint with
  | .error e => ⟨[f.request], f, state, .error e⟩
  | .ok set =>
    match store.install state set with
    | (state, .error e) => ⟨[f.request], f, state, .error (.store e)⟩
    | (state, .ok ()) =>
      ⟨[f.request], { f with lastSuccess := some now }, state, .ok set.keys.length⟩

def isTooSoon (f : KeyFetcher) (now : Nat) : Bool :=
  f.lastSuccess.any fun t => now - t < f.minInterval

/-- Loads the key set unless the latest success is too recent. The clock is read at the start, and
again for the time of a success, which is `later`; without that argument no time passes. -/
def refresh {σ : Type} (f : KeyFetcher) (store : KeyStore σ) (endpoint : Endpoint) (now : Nat)
    (state : σ) (later : Nat := now) : FetchRun σ RefreshOutcome :=
  if f.isTooSoon now then ⟨[], f, state, .ok .skipped⟩
  else
    let run := f.load store endpoint later state
    ⟨run.sent, run.fetcher, run.state, run.result.map .refreshed⟩

end KeyFetcher

end BearerAuth
