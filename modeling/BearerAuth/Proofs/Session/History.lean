import BearerAuth.Session

/-!
# What a session shows of its history

A session is used by authenticating requests and taking payloads, in any order. Its history is the
list of what happened in these calls: how far each attempt got and what stopped it. The main
statement here says that everything a session shows is read off this history, whatever decoder,
verifier and hooks do: the payload it holds, the rejections it has recorded, what each call
returned, and whom it has called with what. The mode decides only where a rejection goes.

Decoder, verifier and hooks are watched from outside: `Authenticator.watched` is the same
authenticator with a list of its calls kept in the surroundings, and `Authenticator.watchedBy` keeps
a list of notes about them.
-/

namespace BearerAuth

variable {σ π : Type}

namespace Session

/-! ## Runs -/

/-- A call that may change a session. -/
inductive Call where
  | authenticate (headers : List Header)
  | takePayload
  deriving DecidableEq, Repr

inductive Answer (π : Type) where
  | authenticated (result : Except Rejection Unit)
  | taken (payload : Option π)

def perform (s : Session π) (a : Authenticator σ π) (world : σ) : Call → σ × Session π × Answer π
  | .authenticate headers =>
    let (world, s, result) := s.authenticate a world headers
    (world, s, .authenticated result)
  | .takePayload => (world, s.takePayload.1, .taken s.takePayload.2)

def run (s : Session π) (a : Authenticator σ π) (world : σ) :
    List Call → σ × Session π × List (Answer π)
  | [] => (world, s, [])
  | call :: calls =>
    let (world, s, answer) := s.perform a world call
    let (world, s, answers) := s.run a world calls
    (world, s, answer :: answers)

/-! ## Histories -/

/-- How far an attempt got, and what stopped it. -/
inductive Attempt (π : Type) where
  | withoutToken (e : AuthError)
  | undecoded (token : BearerToken) (e : AuthError)
  | unverified (token : BearerToken) (payload : π) (e : AuthError)
  | verified (token : BearerToken) (payload : π)

/-- A call of a decoder, a verifier, or the hook at a place in the list of hooks. -/
inductive Visit (π : Type) where
  | decoder (token : BearerToken)
  | verifier (token : BearerToken) (payload : π)
  | hook (place : Nat) (r : Rejection)

namespace Attempt

def outcome : Attempt π → Except AuthError π
  | withoutToken e | undecoded _ e | unverified _ _ e => .error e
  | verified _ payload => .ok payload

/-- The rejection that an attempt ends with, if it fails. -/
def rejection? (t : Attempt π) : Option Rejection :=
  match t.outcome with
  | .error e => some (.ofError e)
  | .ok _ => none

/-- A decoder is called only with a token, and a verifier only with a decoded one. -/
def stages : Attempt π → List (Visit π)
  | withoutToken _ => []
  | undecoded token _ => [.decoder token]
  | unverified token payload _ | verified token payload =>
    [.decoder token, .verifier token payload]

end Attempt

/-- What happened in a call. -/
inductive Event (π : Type) where
  | attempt (t : Attempt π)
  | take

namespace Event

/-- The payload that a session holds after an event. -/
def payload? : Event π → Option π
  | attempt (.verified _ payload) => some payload
  | attempt _ | take => none

def rejection? : Event π → Option Rejection
  | attempt t => t.rejection?
  | take => none

/-- A failed attempt visits every one of so many hooks once, in their order, with its rejection, and
a successful one visits none. -/
def visits (hooks : Nat) : Event π → List (Visit π)
  | attempt t =>
    t.stages ++
      match t.rejection? with
      | some r => (List.range hooks).map fun place => .hook place r
      | none => []
  | take => []

/-- What a call returns: a session that raises returns the rejection of a failed attempt. -/
def answer (raises : Bool) (held : Option π) : Event π → Answer π
  | attempt t =>
    .authenticated <|
      match raises, t.rejection? with
      | true, some r => .error r
      | _, _ => .ok ()
  | take => .taken held

end Event

/-- The payload that a session holds after some events, when `held` is the one before them. -/
def heldAfter (held : Option π) (events : List (Event π)) : Option π :=
  events.foldl (fun _ e => e.payload?) held

/-- The rejections of the failed attempts, in order. -/
def rejections (events : List (Event π)) : List Rejection :=
  events.filterMap Event.rejection?

/-- What the calls of a history return, when `held` is the payload before them. -/
def answers (raises : Bool) : Option π → List (Event π) → List (Answer π)
  | _, [] => []
  | held, e :: events => e.answer raises held :: answers raises e.payload? events

/-- A session holds the payload of its last attempt if that succeeded and no call came after it. -/
theorem heldAfter_none_eq_some_iff {events : List (Event π)} {p : π} :
    heldAfter none events = some p ↔
      ∃ before token, events = before ++ [.attempt (.verified token p)] := by
  rcases List.eq_nil_or_concat events with rfl | ⟨before, e, rfl⟩
  · simp [heldAfter]
  · have hlast : heldAfter none (before ++ [e]) = e.payload? := by
      simp [heldAfter]
    have hevent : e.payload? = some p ↔ ∃ token, e = .attempt (.verified token p) := by
      cases e with
      | take => simp [Event.payload?]
      | attempt t => cases t with
        | verified token payload => simp [Event.payload?]
        | _ => simp [Event.payload?]
    rw [List.concat_eq_append, hlast, hevent]
    constructor
    · rintro ⟨token, rfl⟩
      exact ⟨before, token, rfl⟩
    · rintro ⟨before', token, heq⟩
      have hboth := List.append_inj' heq rfl
      exact ⟨token, List.head_eq_of_cons_eq hboth.2⟩

end Session

namespace Authenticator

open Session (Attempt Call Event Visit)

variable {a : Authenticator σ π} {world world' : σ} {headers : List Header} {t : Attempt π}
  {calls : List Call} {events : List (Event π)}

def inMode (a : Authenticator σ π) (raises : Bool) : Authenticator σ π :=
  { a with raises := raises }

/-- The same authenticator; every call that it makes is added to a list in the surroundings. -/
def watched (a : Authenticator σ π) : Authenticator (σ × List (Visit π)) π where
  decode w token := (((a.decode w.1 token).1, w.2 ++ [.decoder token]), (a.decode w.1 token).2)
  verify w token payload :=
    (((a.verify w.1 token payload).1, w.2 ++ [.verifier token payload]),
      (a.verify w.1 token payload).2)
  raises := a.raises
  hooks := a.hooks.mapIdx fun place hook w r => (hook w.1 r, w.2 ++ [.hook place r])

/-- The same authenticator; a note of every call that it makes is added to a list in the
surroundings. -/
def watchedBy {V : Type} (note : Visit π → V) (a : Authenticator σ π) :
    Authenticator (σ × List V) π where
  decode w token :=
    (((a.decode w.1 token).1, w.2 ++ [note (.decoder token)]), (a.decode w.1 token).2)
  verify w token payload :=
    (((a.verify w.1 token payload).1, w.2 ++ [note (.verifier token payload)]),
      (a.verify w.1 token payload).2)
  raises := a.raises
  hooks := a.hooks.mapIdx fun place hook w r => (hook w.1 r, w.2 ++ [note (.hook place r)])

theorem watched_eq_watchedBy (a : Authenticator σ π) : a.watched = a.watchedBy id :=
  rfl

/-- An attempt from the surroundings `world` goes as `t` says and leaves others. Each stage is
entered only where the one before it has succeeded. -/
inductive Goes (a : Authenticator σ π) (headers : List Header) (world : σ) : Attempt π → σ → Prop
  | withoutToken {e : AuthError} (htoken : Credentials.token headers = .error e) :
    Goes a headers world (.withoutToken e) world
  | undecoded {token : BearerToken} {e : AuthError} {decoded : σ}
    (htoken : Credentials.token headers = .ok token)
    (hdecode : a.decode world token = (decoded, .error e)) :
    Goes a headers world (.undecoded token e) decoded
  | unverified {token : BearerToken} {payload : π} {e : AuthError} {decoded verified : σ}
    (htoken : Credentials.token headers = .ok token)
    (hdecode : a.decode world token = (decoded, .ok payload))
    (hverify : a.verify decoded token payload = (verified, .error e)) :
    Goes a headers world (.unverified token payload e) verified
  | verified {token : BearerToken} {payload : π} {decoded verified : σ}
    (htoken : Credentials.token headers = .ok token)
    (hdecode : a.decode world token = (decoded, .ok payload))
    (hverify : a.verify decoded token payload = (verified, .ok ())) :
    Goes a headers world (.verified token payload) verified

/-- The surroundings after the hooks have heard of an attempt. -/
def heard (a : Authenticator σ π) (world : σ) (t : Attempt π) : σ :=
  match t.rejection? with
  | some r => a.notify world r
  | none => world

/-- From the surroundings `world` the calls go as the events say and leave others. The mode plays no
part in this. -/
inductive History (a : Authenticator σ π) : σ → List Call → List (Event π) → σ → Prop
  | nil {world : σ} : History a world [] [] world
  | attempt {world world' final : σ} {headers : List Header} {t : Attempt π} {calls : List Call}
    {events : List (Event π)} (hgoes : a.Goes headers world t world')
    (hrest : History a (a.heard world' t) calls events final) :
    History a world (.authenticate headers :: calls) (.attempt t :: events) final
  | take {world final : σ} {calls : List Call} {events : List (Event π)}
    (hrest : History a world calls events final) :
    History a world (.takePayload :: calls) (.take :: events) final

/-! ## Every run has a history -/

theorem exists_goes (a : Authenticator σ π) (headers : List Header) (world : σ) :
    ∃ t world', a.Goes headers world t world' := by
  cases htoken : Credentials.token headers with
  | error e => exact ⟨_, _, .withoutToken htoken⟩
  | ok token =>
    rcases hdecode : a.decode world token with ⟨decoded, e | payload⟩
    · exact ⟨_, _, .undecoded htoken hdecode⟩
    · rcases hverify : a.verify decoded token payload with ⟨verified, e | _⟩
      · exact ⟨_, _, .unverified htoken hdecode hverify⟩
      · exact ⟨_, _, .verified htoken hdecode hverify⟩

theorem exists_history (a : Authenticator σ π) (world : σ) (calls : List Call) :
    ∃ events world', a.History world calls events world' := by
  induction calls generalizing world with
  | nil => exact ⟨[], world, .nil⟩
  | cons call calls ih =>
    cases call with
    | takePayload =>
      rcases ih world with ⟨events, final, hrest⟩
      exact ⟨_, _, .take hrest⟩
    | authenticate headers =>
      rcases a.exists_goes headers world with ⟨t, world', hgoes⟩
      rcases ih (a.heard world' t) with ⟨events, final, hrest⟩
      exact ⟨_, _, .attempt hgoes hrest⟩

theorem Goes.inMode (h : a.Goes headers world t world') (raises : Bool) :
    (a.inMode raises).Goes headers world t world' := by
  cases h with
  | withoutToken htoken => exact .withoutToken htoken
  | undecoded htoken hdecode => exact .undecoded htoken hdecode
  | unverified htoken hdecode hverify => exact .unverified htoken hdecode hverify
  | verified htoken hdecode hverify => exact .verified htoken hdecode hverify

theorem History.inMode (h : a.History world calls events world') (raises : Bool) :
    (a.inMode raises).History world calls events world' := by
  induction h with
  | nil => exact .nil
  | attempt hgoes _ ih => exact .attempt (hgoes.inMode raises) ih
  | take _ ih => exact .take ih

/-! ## Watching changes nothing -/

section Watching

variable {V : Type} (note : Visit π → V)

/-- The watched hooks do what the hooks do, and each is noted once, in order. -/
theorem foldl_watchedBy_hooks (hooks : List (σ → Rejection → σ)) (name : Nat → Nat) (world : σ)
    (log : List V) (r : Rejection) :
    (hooks.mapIdx fun place hook (w : σ × List V) r =>
        (hook w.1 r, w.2 ++ [note (.hook (name place) r)])).foldl (fun w hook => hook w r)
          (world, log) =
      (hooks.foldl (fun world hook => hook world r) world,
        log ++ (List.range hooks.length).map fun place => note (.hook (name place) r)) := by
  -- The places of the remaining hooks are one further on than their places among themselves.
  induction hooks generalizing name world log with
  | nil => simp
  | cons hook hooks ih =>
    rw [List.mapIdx_cons, List.foldl_cons, List.foldl_cons,
      ih (fun place => name (place + 1)), List.length_cons, List.range_succ_eq_map]
    simp [Function.comp_def]

theorem watchedBy_notify (a : Authenticator σ π) (world : σ) (log : List V) (r : Rejection) :
    (a.watchedBy note).notify (world, log) r =
      (a.notify world r,
        log ++ (List.range a.hooks.length).map fun place => note (.hook place r)) :=
  foldl_watchedBy_hooks note a.hooks id world log r

theorem watchedBy_decode {token : BearerToken} {r : Except AuthError π}
    (h : a.decode world token = (world', r)) (log : List V) :
    (a.watchedBy note).decode (world, log) token =
      ((world', log ++ [note (.decoder token)]), r) := by
  simp only [watchedBy, h]

theorem watchedBy_verify {token : BearerToken} {payload : π} {r : Except AuthError Unit}
    (h : a.verify world token payload = (world', r)) (log : List V) :
    (a.watchedBy note).verify (world, log) token payload =
      ((world', log ++ [note (.verifier token payload)]), r) := by
  simp only [watchedBy, h]

theorem Goes.watchedBy (h : a.Goes headers world t world') (log : List V) :
    (a.watchedBy note).Goes headers (world, log) t (world', log ++ t.stages.map note) := by
  cases h with
  | withoutToken htoken =>
    rw [Attempt.stages, List.map_nil, List.append_nil]
    exact .withoutToken htoken
  | undecoded htoken hdecode => exact .undecoded htoken (watchedBy_decode note hdecode log)
  | unverified htoken hdecode hverify =>
    rw [Attempt.stages, List.map_cons, List.append_cons]
    exact .unverified htoken (watchedBy_decode note hdecode log)
      (watchedBy_verify note hverify _)
  | verified htoken hdecode hverify =>
    rw [Attempt.stages, List.map_cons, List.append_cons]
    exact .verified htoken (watchedBy_decode note hdecode log) (watchedBy_verify note hverify _)

theorem watchedBy_heard (a : Authenticator σ π) (world : σ) (log : List V) (t : Attempt π) :
    (a.watchedBy note).heard (world, log ++ t.stages.map note) t =
      (a.heard world t, log ++ ((Event.attempt t).visits a.hooks.length).map note) := by
  cases hrejection : t.rejection? with
  | none => simp [heard, Event.visits, hrejection]
  | some r => simp [heard, Event.visits, hrejection, watchedBy_notify]

end Watching

/-- Watched calls go as they do unwatched, and the list that is kept is that of the history. -/
theorem History.watched (h : a.History world calls events world') (log : List (Visit π)) :
    a.watched.History (world, log) calls events
      (world', log ++ events.flatMap (Event.visits a.hooks.length)) := by
  rw [watched_eq_watchedBy]
  induction h generalizing log with
  | nil => simpa using History.nil
  | @attempt world middle final headers t calls events hgoes _ ih =>
    refine .attempt (hgoes.watchedBy id log) ?_
    rw [watchedBy_heard, List.map_id]
    simpa using ih (log ++ (Event.attempt t).visits a.hooks.length)
  | take _ ih => exact .take (by simpa [Event.visits] using ih log)

/-! ## A run is read off its history -/

theorem Goes.attempt_eq (h : a.Goes headers world t world') :
    a.attempt world headers = (world', t.outcome) := by
  cases h with
  | withoutToken htoken => simp [attempt, htoken, Attempt.outcome]
  | undecoded htoken hdecode => simp [attempt, check, htoken, hdecode, Attempt.outcome]
  | unverified htoken hdecode hverify =>
    simp [attempt, check, htoken, hdecode, hverify, Attempt.outcome]
  | verified htoken hdecode hverify =>
    simp [attempt, check, htoken, hdecode, hverify, Attempt.outcome]

/-- One call: an attempt replaces the payload and hands its rejection to the place that the mode
says. -/
theorem Goes.perform_eq (h : a.Goes headers world t world') (s : Session π) :
    s.perform a world (.authenticate headers) =
      (a.heard world' t,
        ⟨(Event.attempt t).payload?,
          if a.raises then s.errors else s.errors ++ t.rejection?.toList⟩,
        (Event.attempt t).answer a.raises s.payload) := by
  have hend : (t.rejection? = none ∧ ∃ payload, t.outcome = .ok payload ∧
      (Event.attempt t).payload? = some payload) ∨
      ∃ e, t.outcome = .error e ∧ t.rejection? = some (.ofError e) ∧
        (Event.attempt t).payload? = none := by
    cases t with
    | verified token payload => exact .inl ⟨rfl, payload, rfl, rfl⟩
    | withoutToken e => exact .inr ⟨e, rfl, rfl, rfl⟩
    | undecoded token e => exact .inr ⟨e, rfl, rfl, rfl⟩
    | unverified token payload e => exact .inr ⟨e, rfl, rfl, rfl⟩
  simp only [Session.perform, Session.authenticate, h.attempt_eq, heard, Event.answer]
  rcases hend with ⟨hrejection, payload, houtcome, hpayload⟩ | ⟨e, houtcome, hrejection, hpayload⟩
  · simp [houtcome, hrejection, hpayload]
  · cases a.raises with
    | true => simp [houtcome, hrejection, hpayload]
    | false => simp [houtcome, hrejection, hpayload]

theorem History.run_eq (h : a.History world calls events world') (s : Session π) :
    s.run a world calls =
      (world', ⟨Session.heldAfter s.payload events,
          if a.raises then s.errors else s.errors ++ Session.rejections events⟩,
        Session.answers a.raises s.payload events) := by
  induction h generalizing s with
  | nil => cases a.raises with
    | true => rfl
    | false => simp [Session.run, Session.heldAfter, Session.rejections, Session.answers]
  | @attempt world middle final headers t calls events hgoes _ ih =>
    simp only [Session.run, hgoes.perform_eq, ih, Session.heldAfter, Session.rejections,
      Session.answers, List.foldl_cons, List.filterMap_cons]
    cases a.raises with
    | true => rfl
    | false => cases hrejection : t.rejection? with
      | none => simp [Event.rejection?, hrejection]
      | some r => simp [Event.rejection?, hrejection]
  | take _ ih =>
    have hnone : (Event.take : Event π).rejection? = none := rfl
    simp [Session.run, Session.perform, Session.takePayload, ih, Session.heldAfter,
      Session.rejections, Session.answers, Event.payload?, hnone, Event.answer]

end Authenticator

namespace Session

/-- A run of a new session is read off a history that does not depend on the mode. The session holds
a payload exactly when the last call was an attempt that succeeded with it; a session that raises
has no recorded rejections and one that records has those of all failed attempts, in order; the
calls return what the history says; and watching it, one sees decoder, verifier and hooks called as
the history says. -/
theorem run_follows_history (a : Authenticator σ π) (world : σ) (calls : List Call) :
    ∃ events world' payload, a.History world calls events world' ∧
      (∀ p, payload = some p ↔ ∃ before token, events = before ++ [.attempt (.verified token p)]) ∧
      ∀ raises : Bool,
        start.run (a.inMode raises) world calls =
          (world', ⟨payload, if raises then [] else rejections events⟩,
            answers raises none events) ∧
        start.run (a.inMode raises).watched (world, []) calls =
          ((world', events.flatMap (Event.visits a.hooks.length)),
            ⟨payload, if raises then [] else rejections events⟩, answers raises none events) := by
  rcases a.exists_history world calls with ⟨events, world', hhistory⟩
  refine ⟨events, world', heldAfter none events, hhistory, ?_, ?_⟩
  · intro p
    exact heldAfter_none_eq_some_iff
  · intro raises
    have hmode := hhistory.inMode raises
    constructor
    · exact hmode.run_eq start
    · exact (hmode.watched []).run_eq start

end Session

end BearerAuth
