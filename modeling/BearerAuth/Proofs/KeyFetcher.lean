import BearerAuth.KeyFetcher
import BearerAuth.Proofs.Result
import Mathlib.Data.List.Induction

/-!
# What a fetcher leaves behind

A fetcher is used by loading and refreshing, in any order, while time passes and endpoint and store
do what they like. The main statement here says that fetcher and store show the latest success at
any time and nothing else of the past: the store holds the key set that was delivered then, and the
fetcher remembers when that was. Everything that goes wrong leaves both as they were, and a refresh
is skipped exactly when that success is too recent.

A call is taken apart once, by `Call.Goes`; what a run keeps follows from that by induction.
-/

namespace BearerAuth

open Http

variable {σ : Type} {store : KeyStore σ} {content : σ → JwkSet} {state : σ}

/-! ## Stores that hold a set -/

namespace KeyStore

/-- A store holds a set in each of its states. It lists no other set, an installation that succeeds
replaces the set, and one that fails leaves it. -/
structure Holds (store : KeyStore σ) (content : σ → JwkSet) : Prop where
  listed : ∀ {state installed}, store.list state = .ok installed → installed.set = content state
  accepted : ∀ {state set state'}, store.install state set = (state', .ok ()) →
    content state' = set
  refused : ∀ {state set state' e}, store.install state set = (state', .error e) →
    content state' = content state

theorem memory_holds : memory.Holds InstalledSet.set where
  listed h := by cases h; rfl
  accepted h := by cases h; rfl
  refused h := by cases h

theorem fixed_holds (set : JwkSet) : (fixed set).Holds fun _ => set where
  listed h := by cases h; rfl
  accepted h := by cases h
  refused _ := rfl

theorem unreachable_holds (reason : String) (content : Unit → JwkSet) :
    (unreachable reason).Holds content where
  listed h := by cases h
  accepted h := by cases h
  refused _ := rfl

end KeyStore

namespace KeyFetcher

variable {f : KeyFetcher}

/-! ## Calls -/

inductive Operation where
  | load
  | refresh
  deriving DecidableEq, Repr

structure Call where
  operation : Operation
  /-- What the endpoint does with a request that is sent in this call. -/
  endpoint : Endpoint
  /-- The clock at the start of the call. -/
  began : Nat
  /-- The clock once the set has been installed. -/
  ended : Nat

namespace Call

/-- Makes a call. Both operations tell how many keys they have installed. -/
def perform (call : Call) (store : KeyStore σ) (f : KeyFetcher) (state : σ) :
    FetchRun σ RefreshOutcome :=
  match call.operation with
  | .load =>
    let run := f.load store call.endpoint call.ended state
    ⟨run.sent, run.fetcher, run.state, run.result.map .refreshed⟩
  | .refresh => f.refresh store call.endpoint call.began state call.ended

/-- The endpoint answers the request with success and a body that reads as the set. -/
def Delivers (call : Call) (f : KeyFetcher) (set : JwkSet) : Prop :=
  ∃ response, call.endpoint f.request = some response ∧ response.status.isSuccess = true ∧
    readBody response.body = .ok set

/-- The limiter stops the call. -/
def Stopped (call : Call) (f : KeyFetcher) : Prop :=
  call.operation = .refresh ∧ f.isTooSoon call.began = true

theorem Delivers.of_request_eq {call : Call} {set : JwkSet} {g : KeyFetcher}
    (h : call.Delivers f set) (hrequest : f.request = g.request) : call.Delivers g set := by
  unfold Delivers at h ⊢
  rwa [← hrequest]

theorem delivers_iff {call : Call} {set : JwkSet} :
    call.Delivers f set ↔ f.fetch call.endpoint = .ok set := by
  unfold Delivers fetch
  cases call.endpoint f.request with
  | none => simp
  | some response =>
    cases hstatus : response.status.isSuccess with
    | true => simp [hstatus]
    | false => simp [hstatus]

/-- How a call goes, and what it leads to. -/
inductive Goes (call : Call) (store : KeyStore σ) (f : KeyFetcher) (state : σ) :
    FetchRun σ RefreshOutcome → Prop
  | skipped (hstopped : call.Stopped f) : Goes call store f state ⟨[], f, state, .ok .skipped⟩
  | undelivered {e : FetchError} (hstarts : ¬call.Stopped f)
    (hfetch : f.fetch call.endpoint = .error e) :
    Goes call store f state ⟨[f.request], f, state, .error e⟩
  | refused {set : JwkSet} {state' : σ} {e : KeyStoreError} (hstarts : ¬call.Stopped f)
    (hdelivers : call.Delivers f set) (hinstall : store.install state set = (state', .error e)) :
    Goes call store f state ⟨[f.request], f, state', .error (.store e)⟩
  | installed {set : JwkSet} {state' : σ} (hstarts : ¬call.Stopped f)
    (hdelivers : call.Delivers f set) (hinstall : store.install state set = (state', .ok ())) :
    Goes call store f state ⟨[f.request], { f with lastSuccess := some call.ended }, state',
      .ok (.refreshed set.keys.length)⟩

theorem perform_of_stopped {call : Call} (h : call.Stopped f) :
    call.perform store f state = ⟨[], f, state, .ok .skipped⟩ := by
  rcases h with ⟨hrefresh, hsoon⟩
  simp [perform, hrefresh, refresh, hsoon]

/-- A call that is not stopped loads the set, whichever operation it is. -/
theorem perform_of_not_stopped {call : Call} (h : ¬call.Stopped f) :
    call.perform store f state =
      ⟨(f.load store call.endpoint call.ended state).sent,
        (f.load store call.endpoint call.ended state).fetcher,
        (f.load store call.endpoint call.ended state).state,
        (f.load store call.endpoint call.ended state).result.map .refreshed⟩ := by
  unfold perform
  cases hoperation : call.operation with
  | load => rfl
  | refresh =>
    have hlate : f.isTooSoon call.began = false := by
      cases hsoon : f.isTooSoon call.began with
      | true => exact absurd ⟨hoperation, hsoon⟩ h
      | false => rfl
    simp [refresh, hlate]

theorem goes_perform (call : Call) (store : KeyStore σ) (f : KeyFetcher) (state : σ) :
    call.Goes store f state (call.perform store f state) := by
  by_cases hstopped : call.Stopped f
  · rw [perform_of_stopped hstopped]
    exact .skipped hstopped
  · rw [perform_of_not_stopped hstopped]
    cases hfetch : f.fetch call.endpoint with
    | error e =>
      simp only [load, hfetch]
      exact .undelivered hstopped hfetch
    | ok set =>
      have hdelivers : call.Delivers f set := delivers_iff.2 hfetch
      rcases hinstall : store.install state set with ⟨state', e | _⟩
      · simp only [load, hfetch, hinstall]
        exact .refused hstopped hdelivers hinstall
      · simp only [load, hfetch, hinstall]
        exact .installed hstopped hdelivers hinstall

namespace Goes

variable {call : Call} {done : FetchRun σ RefreshOutcome}

theorem skipped_iff (h : call.Goes store f state done) :
    done.result = .ok .skipped ↔ call.Stopped f := by
  cases h with
  | skipped hstopped => exact ⟨fun _ => hstopped, fun _ => rfl⟩
  | undelivered hstarts _ => exact ⟨nofun, fun h => absurd h hstarts⟩
  | refused hstarts _ _ => exact ⟨nofun, fun h => absurd h hstarts⟩
  | installed hstarts _ _ => exact ⟨nofun, fun h => absurd h hstarts⟩

/-- The request is sent once, unless the call is skipped. -/
theorem sent_cases (h : call.Goes store f state done) :
    done.result = .ok .skipped ∧ done.sent = [] ∨
      done.result ≠ .ok .skipped ∧ done.sent = [f.request] := by
  cases h with
  | skipped _ => exact .inl ⟨rfl, rfl⟩
  | undelivered _ _ => exact .inr ⟨nofun, rfl⟩
  | refused _ _ _ => exact .inr ⟨nofun, rfl⟩
  | installed _ _ _ => exact .inr ⟨nofun, rfl⟩

theorem content_of_refreshed (hstore : store.Holds content) (h : call.Goes store f state done)
    {n : Nat} (hn : done.result = .ok (.refreshed n)) :
    ∃ set, call.Delivers f set ∧ set.keys.length = n ∧ content done.state = set := by
  cases h with
  | skipped _ => cases hn
  | undelivered _ _ => cases hn
  | refused _ _ _ => cases hn
  | @installed set _ _ hdelivers hinstall =>
    cases hn
    exact ⟨set, hdelivers, rfl, hstore.accepted hinstall⟩

/-- A set that is delivered to a call that starts is refused by the store or installed. -/
theorem refreshed_of_delivers (h : call.Goes store f state done) (hstarts : ¬call.Stopped f)
    {set : JwkSet} (hdelivers : call.Delivers f set)
    (htaken : (store.install state set).2 = .ok ()) :
    done.result = .ok (.refreshed set.keys.length) := by
  -- The body reads as one set only.
  have hset : ∀ other, call.Delivers f other → other = set := fun other hother =>
    Except.ok.inj ((delivers_iff.1 hother).symm.trans (delivers_iff.1 hdelivers))
  cases h with
  | skipped hstopped => exact absurd hstopped hstarts
  | undelivered _ hfetch =>
    rw [delivers_iff.1 hdelivers] at hfetch
    cases hfetch
  | refused _ hother hinstall =>
    rw [hset _ hother] at hinstall
    rw [hinstall] at htaken
    cases htaken
  | installed _ hother _ => rw [hset _ hother]

/-- A call that fails or is skipped changes nothing. -/
theorem unchanged (hstore : store.Holds content) (h : call.Goes store f state done)
    (hn : ∀ n, done.result ≠ .ok (.refreshed n)) :
    content done.state = content state ∧ done.fetcher = f := by
  cases h with
  | skipped _ => exact ⟨rfl, rfl⟩
  | undelivered _ _ => exact ⟨rfl, rfl⟩
  | refused _ _ hinstall => exact ⟨hstore.refused hinstall, rfl⟩
  | installed _ _ _ => exact absurd rfl (hn _)

end Goes

end Call

/-! ## Runs -/

/-- A call with what came of it. -/
structure Entry where
  call : Call
  /-- The requests that were sent. -/
  sent : List Message
  result : Except FetchError RefreshOutcome

/-- The number of keys that the call has installed, if it succeeded. -/
def Entry.count? (entry : Entry) : Option Nat :=
  match entry.result with
  | .ok (.refreshed n) => some n
  | .ok .skipped | .error _ => none

/-- The latest success of a run. -/
def latest? (entries : List Entry) : Option Entry :=
  (entries.filter fun entry => entry.count?.isSome).getLast?

/-- Where a run of calls has got to. -/
structure Progress (σ : Type) where
  entries : List Entry
  fetcher : KeyFetcher
  state : σ

def Progress.step (store : KeyStore σ) (p : Progress σ) (call : Call) : Progress σ :=
  let run := call.perform store p.fetcher p.state
  ⟨p.entries ++ [⟨call, run.sent, run.result⟩], run.fetcher, run.state⟩

def run (f : KeyFetcher) (store : KeyStore σ) (state : σ) (calls : List Call) : Progress σ :=
  calls.foldl (Progress.step store) ⟨[], f, state⟩

/-- What the clock shows in the course of some calls. -/
def readings (calls : List Call) : List Nat :=
  calls.flatMap fun call => [call.began, call.ended]

theorem run_append_singleton (f : KeyFetcher) (store : KeyStore σ) (state : σ) (calls : List Call)
    (call : Call) :
    f.run store state (calls ++ [call]) = (f.run store state calls).step store call := by
  simp [run, List.foldl_append]

theorem calls_of_run (f : KeyFetcher) (store : KeyStore σ) (state : σ) (calls : List Call) :
    (f.run store state calls).entries.map Entry.call = calls := by
  induction calls using List.reverseRecOn with
  | nil => rfl
  | append_singleton calls call ih =>
    simp [run_append_singleton, Progress.step, ih]

theorem latest?_append_of_none {entries : List Entry} {entry : Entry} (h : entry.count? = none) :
    latest? (entries ++ [entry]) = latest? entries := by
  simp [latest?, List.filter_append, h]

theorem latest?_append_of_some {entries : List Entry} {entry : Entry} {n : Nat}
    (h : entry.count? = some n) : latest? (entries ++ [entry]) = some entry := by
  simp [latest?, List.filter_append, h]

theorem mem_of_latest? {entries : List Entry} {entry : Entry} (h : latest? entries = some entry) :
    entry ∈ entries :=
  (List.mem_filter.1 (List.mem_of_getLast? h)).1

/-! ## What a run shows -/

/-- Fetcher and store show the latest success of a run of a new fetcher `f`: the fetcher has its
time, and the store has the set that was delivered then, whose size was told. -/
structure Shows (content : σ → JwkSet) (f : KeyFetcher) (state : σ) (p : Progress σ) : Prop where
  fetcher : p.fetcher = { f with
    lastSuccess := (latest? p.entries).map fun entry => entry.call.ended }
  held : ∀ entry, latest? p.entries = some entry → ∃ set, entry.call.Delivers f set ∧
    entry.result = .ok (.refreshed set.keys.length) ∧ content p.state = set
  untouched : latest? p.entries = none → content p.state = content state

namespace Shows

variable {p : Progress σ} {call : Call}

theorem request_eq (h : Shows content f state p) : p.fetcher.request = f.request := by
  rw [h.fetcher]
  rfl

/-- What changes neither fetcher nor set and is no success adds nothing to what is shown. -/
theorem of_unchanged (h : Shows content f state p) {entry : Entry} {state' : σ}
    (hcount : entry.count? = none) (hcontent : content state' = content p.state) :
    Shows content f state ⟨p.entries ++ [entry], p.fetcher, state'⟩ where
  fetcher := by
    rw [latest?_append_of_none hcount]
    exact h.fetcher
  held := by
    rw [latest?_append_of_none hcount, hcontent]
    exact h.held
  untouched := by
    rw [latest?_append_of_none hcount, hcontent]
    exact h.untouched

theorem step (hstore : store.Holds content) (h : Shows content f state p) (call : Call) :
    Shows content f state (p.step store call) := by
  have hgoes := call.goes_perform store p.fetcher p.state
  unfold Progress.step
  generalize call.perform store p.fetcher p.state = done at hgoes ⊢
  -- Only a call that installs a set becomes the latest success.
  cases hgoes with
  | skipped _ => exact h.of_unchanged rfl rfl
  | undelivered _ _ => exact h.of_unchanged rfl rfl
  | refused _ _ hinstall => exact h.of_unchanged rfl (hstore.refused hinstall)
  | @installed set state' _ hdelivers hinstall =>
    have hlatest : ∀ sent,
        latest? (p.entries ++ [⟨call, sent, .ok (.refreshed set.keys.length)⟩]) =
          some ⟨call, sent, .ok (.refreshed set.keys.length)⟩ :=
      fun _ => latest?_append_of_some rfl
    refine ⟨?_, ?_, ?_⟩
    · rw [hlatest, h.fetcher]
      rfl
    · intro entry hentry
      rw [hlatest] at hentry
      obtain rfl := Option.some.inj hentry
      exact ⟨set, hdelivers.of_request_eq h.request_eq, rfl, hstore.accepted hinstall⟩
    · intro hnone
      rw [hlatest] at hnone
      cases hnone

end Shows

theorem shows_run (hstore : store.Holds content) (hnew : f.lastSuccess = none) (calls : List Call) :
    Shows content f state (f.run store state calls) := by
  induction calls using List.reverseRecOn with
  | nil =>
    refine ⟨?_, ?_, fun _ => rfl⟩
    · rcases f with ⟨uri, minInterval, lastSuccess⟩
      obtain rfl : lastSuccess = none := hnew
      rfl
    · intro entry hentry
      cases hentry
  | append_singleton calls call ih =>
    rw [run_append_singleton]
    exact ih.step hstore call

/-- A refresh is stopped exactly when the latest success before it is less than the interval old. -/
theorem Shows.stopped_iff {p : Progress σ} {call : Call} (h : Shows content f state p)
    (hclock : ∀ entry, latest? p.entries = some entry → entry.call.ended ≤ call.began) :
    call.Stopped p.fetcher ↔ call.operation = .refresh ∧
      ∃ entry, latest? p.entries = some entry ∧
        call.began < entry.call.ended + f.minInterval := by
  unfold Call.Stopped isTooSoon
  rw [h.fetcher]
  cases hlatest : latest? p.entries with
  | none => simp
  | some entry =>
    have hle := hclock entry hlatest
    have hsoon : call.began - entry.call.ended < f.minInterval ↔
        call.began < entry.call.ended + f.minInterval := by
      omega
    simp [hsoon]

theorem ended_le_began {before : List Call} {call : Call} {entry : Entry}
    (hclock : (readings (before ++ [call])).Pairwise (· ≤ ·))
    (hentry : latest? (f.run store state before).entries = some entry) :
    entry.call.ended ≤ call.began := by
  have hcall : entry.call ∈ before := by
    rw [← calls_of_run f store state before]
    exact List.mem_map_of_mem (mem_of_latest? hentry)
  have hended : entry.call.ended ∈ readings before :=
    List.mem_flatMap.2 ⟨entry.call, hcall, by simp⟩
  have hbegan : call.began ∈ readings [call] := by simp [readings]
  -- What the clock showed in an earlier call stands before what it shows in this one.
  rw [readings, List.flatMap_append] at hclock
  exact (List.pairwise_append.1 hclock).2.2 _ hended _ hbegan

end KeyFetcher

namespace Sample

def servedSet : JwkSet :=
  ⟨[⟨none, none, none, some "k", none, none, none, none, .octets "YQ"⟩]⟩

def servedBody : List UInt8 :=
  Text.Utf8.encode "\x7b\"keys\":[\x7b\"kty\":\"oct\",\"k\":\"YQ\",\"kid\":\"k\"\x7d]\x7d"

def keyServer : Endpoint := fun _ => some ⟨⟨200⟩, servedBody⟩

theorem fetch_keyServer (f : KeyFetcher) : f.fetch keyServer = .ok servedSet := by
  have hread : KeyFetcher.readBody servedBody = .ok servedSet := by decide +kernel
  have hstatus : Status.isSuccess ⟨200⟩ = true := by decide
  simp [KeyFetcher.fetch, keyServer, hread, hstatus]

/-- A store that refuses as many sets as its state says, and then takes every set. -/
def busy : KeyStore (JwkSet × Nat) where
  list state := .ok ⟨state.1, 0⟩
  install
    | (held, n + 1), _ => ((held, n), .error (.unavailable "busy"))
    | (_, 0), set => ((set, 0), .ok ())

theorem busy_holds : busy.Holds Prod.fst where
  listed h := by cases h; rfl
  accepted := by
    rintro ⟨held, _ | n⟩ set state' h
    · cases h; rfl
    · cases h
  refused := by
    rintro ⟨held, _ | n⟩ set state' e h
    · cases h
    · cases h; rfl

def location : Url :=
  ⟨"https".toList, [], [], some (.name "keys".toList), none, .segments [[]], none, none⟩

def refreshAt (now : Nat) : KeyFetcher.Call :=
  ⟨.refresh, keyServer, now, now + 10⟩

def fetcher : KeyFetcher := ⟨location, 5000, none⟩

/-- What two refreshes lead to when the store refuses the first set. -/
def refreshedOnce : KeyFetcher.Progress (JwkSet × Nat) :=
  fetcher.run busy (.empty, 1) [refreshAt 0, refreshAt 20]

theorem refreshedOnce_eq :
    refreshedOnce =
      ⟨[⟨refreshAt 0, [fetcher.request], .error (.store (.unavailable "busy"))⟩,
          ⟨refreshAt 20, [fetcher.request], .ok (.refreshed 1)⟩],
        { fetcher with lastSuccess := some 30 }, (servedSet, 0)⟩ := by
  simp [refreshedOnce, KeyFetcher.run, KeyFetcher.Progress.step, KeyFetcher.Call.perform, refreshAt,
    KeyFetcher.refresh, KeyFetcher.load, KeyFetcher.isTooSoon, fetch_keyServer, busy, fetcher,
    servedSet, Except.map]

theorem latest_refreshedOnce :
    KeyFetcher.latest? refreshedOnce.entries =
      some ⟨refreshAt 20, [fetcher.request], .ok (.refreshed 1)⟩ := by
  rw [refreshedOnce_eq]
  rfl

theorem refreshAt_delivers (now : Nat) (f : KeyFetcher) : (refreshAt now).Delivers f servedSet :=
  KeyFetcher.Call.delivers_iff.2 (fetch_keyServer f)

end Sample

end BearerAuth
