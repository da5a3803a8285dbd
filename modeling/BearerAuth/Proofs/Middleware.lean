import BearerAuth.Middleware
import BearerAuth.Proofs.Session.History
import BearerAuth.Proofs.Session.Rotation

/-!
# What the middleware lets through

The middleware answers requests one after the other, and each of them only with what its own headers
bring. The main statement here is about an arbitrary request in an arbitrary run. It says when the
inner service is reached and with what, when a payload goes along, and what a rejected request is
answered; and that the requests before it play no part, as long as nothing in the run changes what
the authenticator looks at.

Authenticator and inner service are watched from outside, in one list: `Middleware.calls` are the
calls that are made for one request.
-/

namespace BearerAuth

variable {σ π β ε ρ κ : Type}

/-! ## Calls -/

/-- A call that is made for a request: within the authenticator, or of the inner service. -/
inductive Middleware.Visit (π β : Type) where
  | within (v : Session.Visit π)
  | inner (request : Request β) (payload : Option π)

/-- What the inner service is called with. -/
def Middleware.Visit.inner? : Visit π β → Option (Request β × Option π)
  | within _ => none
  | inner request payload => some (request, payload)

open Middleware (Visit)

/-- The same service; its calls are added to a list in the surroundings. -/
def Service.watched (service : Service σ π β ε ρ) : Service (σ × List (Visit π β)) π β ε ρ :=
  fun w request payload =>
    (((service w.1 request payload).1, w.2 ++ [.inner request payload]),
      (service w.1 request payload).2)

namespace Middleware

/-- The same middleware; the calls within its authenticator are added to a list in the
surroundings. -/
def watched (m : Middleware σ π) : Middleware (σ × List (Visit π β)) π :=
  ⟨m.authenticator.watchedBy .within, m.bypass⟩

def calls (m : Middleware σ π) (service : Service σ π β ε ρ) (raise : Rejection → ε) (world : σ)
    (request : Request β) : List (Visit π β) :=
  (m.watched.call (Service.watched service) raise (world, []) request).1.2

def runCalls (m : Middleware σ π) (service : Service σ π β ε ρ) (raise : Rejection → ε) (world : σ)
    (requests : List (Request β)) : List (Visit π β) :=
  (m.watched.run (Service.watched service) raise (world, []) requests).1.2

/-- What the inner service is called with among some calls. -/
def innerCalls (calls : List (Visit π β)) : List (Request β × Option π) :=
  calls.filterMap Visit.inner?

end Middleware

/-! ## One request -/

namespace Authenticator

/-- What an attempt leads to: a rejection, or a payload to go along if there is one. -/
def verdict (a : Authenticator σ π) (outcome : Except AuthError π) : Except Rejection (Option π) :=
  match outcome with
  | .ok payload => .ok (some payload)
  | .error e => if a.raises then .error (.ofError e) else .ok none

variable {a : Authenticator σ π} {outcome : Except AuthError π} {r : Rejection} {p : π}

theorem verdict_eq_error_iff :
    a.verdict outcome = .error r ↔
      a.raises = true ∧ ∃ e, outcome = .error e ∧ r = .ofError e := by
  cases outcome with
  | ok payload => simp [verdict]
  | error e => cases hmode : a.raises with
    | true => simp [verdict, hmode, eq_comm]
    | false => simp [verdict, hmode]

theorem verdict_eq_ok_some_iff : a.verdict outcome = .ok (some p) ↔ outcome = .ok p := by
  cases outcome with
  | ok payload => simp [verdict]
  | error e => cases hmode : a.raises with
    | true => simp [verdict, hmode]
    | false => simp [verdict, hmode]

end Authenticator

namespace Middleware

open Session (Attempt Event)

variable {m : Middleware σ π} {service : Service σ π β ε ρ} {raise : Rejection → ε}
  {world world' : σ} {request : Request β} {t : Attempt π}

theorem isBypassed_iff {path : String} : m.isBypassed path = true ↔ path ∈ m.bypass := by
  simp [isBypassed]

theorem call_of_bypassed (h : request.path ∈ m.bypass) :
    m.call service raise world request = service world request none := by
  rw [call, if_pos (isBypassed_iff.2 h)]

/-- A guarded request is answered after the hooks have heard of its attempt, as the verdict says. -/
theorem call_of_goes (h : request.path ∉ m.bypass)
    (hgoes : m.authenticator.Goes request.headers world t world') :
    m.call service raise world request =
      match m.authenticator.verdict t.outcome with
      | .error r => (m.authenticator.heard world' t, .error (raise r))
      | .ok payload => service (m.authenticator.heard world' t) request payload := by
  have hguarded : ¬m.isBypassed request.path = true := fun hb => h (isBypassed_iff.1 hb)
  rw [call, if_neg hguarded]
  -- The hooks hear of failed attempts and of no others.
  have hheard : ∀ e, t.outcome = .error e →
      m.authenticator.heard world' t = m.authenticator.notify world' (.ofError e) := by
    intro e he
    simp only [Authenticator.heard, Attempt.rejection?, he]
  have hkept : ∀ p, t.outcome = .ok p → m.authenticator.heard world' t = world' := by
    intro p hp
    simp only [Authenticator.heard, Attempt.rejection?, hp]
  simp only [Session.authenticate, hgoes.attempt_eq]
  cases houtcome : t.outcome with
  | ok p => simp [Authenticator.verdict, Session.takePayload, hkept p houtcome]
  | error e => cases hmode : m.authenticator.raises with
    | true => simp [Authenticator.verdict, hmode, hheard e houtcome]
    | false => simp [Authenticator.verdict, hmode, hheard e houtcome, Session.takePayload]

/-- The calls for a guarded request whose attempt goes like this. -/
def visits (m : Middleware σ π) (request : Request β) (t : Attempt π) : List (Visit π β) :=
  ((Event.attempt t).visits m.authenticator.hooks.length).map .within ++
    match m.authenticator.verdict t.outcome with
    | .error _ => []
    | .ok payload => [.inner request payload]

theorem watched_call_of_bypassed (h : request.path ∈ m.bypass) (log : List (Visit π β)) :
    m.watched.call (Service.watched service) raise (world, log) request =
      (((m.call service raise world request).1, log ++ [.inner request none]),
        (m.call service raise world request).2) := by
  have hwatched : request.path ∈ (m.watched : Middleware (σ × List (Visit π β)) π).bypass := h
  rw [call_of_bypassed h, call_of_bypassed hwatched, Service.watched]

theorem watched_call_of_goes (h : request.path ∉ m.bypass)
    (hgoes : m.authenticator.Goes request.headers world t world') (log : List (Visit π β)) :
    m.watched.call (Service.watched service) raise (world, log) request =
      (((m.call service raise world request).1, log ++ m.visits request t),
        (m.call service raise world request).2) := by
  have hwatched : request.path ∉ (m.watched : Middleware (σ × List (Visit π β)) π).bypass := h
  have hgoes' := hgoes.watchedBy (Visit.within : _ → Visit π β) log
  have hheard := m.authenticator.watchedBy_heard (Visit.within : _ → Visit π β) world' log t
  rw [call_of_goes hwatched hgoes', call_of_goes h hgoes, visits]
  -- Watching leaves the mode as it is, and the mode is all that a verdict depends on.
  have hverdict : (m.watched : Middleware (σ × List (Visit π β)) π).authenticator.verdict t.outcome =
      m.authenticator.verdict t.outcome := rfl
  rw [hverdict]
  cases m.authenticator.verdict t.outcome with
  | error r => simp [watched, hheard]
  | ok payload => simp [watched, hheard, Service.watched]

theorem calls_of_bypassed (h : request.path ∈ m.bypass) :
    m.calls service raise world request = [.inner request none] := by
  rw [calls, watched_call_of_bypassed h, List.nil_append]

theorem calls_of_goes (h : request.path ∉ m.bypass)
    (hgoes : m.authenticator.Goes request.headers world t world') :
    m.calls service raise world request = m.visits request t := by
  rw [calls, watched_call_of_goes h hgoes, List.nil_append]

/-- Watching a call changes nothing, and the calls that are made for it are added to the list. -/
theorem watched_call (m : Middleware σ π) (service : Service σ π β ε ρ) (raise : Rejection → ε)
    (world : σ) (log : List (Visit π β)) (request : Request β) :
    m.watched.call (Service.watched service) raise (world, log) request =
      (((m.call service raise world request).1, log ++ m.calls service raise world request),
        (m.call service raise world request).2) := by
  by_cases h : request.path ∈ m.bypass
  · rw [watched_call_of_bypassed h, calls_of_bypassed h]
  · rcases m.authenticator.exists_goes request.headers world with ⟨t, world', hgoes⟩
    rw [watched_call_of_goes h hgoes, calls_of_goes h hgoes]

theorem innerCalls_visits :
    innerCalls (m.visits request t) =
      match m.authenticator.verdict t.outcome with
      | .error _ => []
      | .ok payload => [(request, payload)] := by
  have hwithin : Visit.inner? ∘ (Visit.within : _ → Visit π β) = fun _ => none := rfl
  rw [innerCalls, visits, List.filterMap_append, List.filterMap_map, hwithin]
  cases m.authenticator.verdict t.outcome with
  | error r => simp
  | ok payload => simp [Visit.inner?]

/-- What a request is admitted with, if it is: the payload to go along, or none. -/
def admission (m : Middleware σ π) (world : σ) (request : Request β) :
    Except Rejection (Option π) :=
  if request.path ∈ m.bypass then .ok none
  else m.authenticator.verdict (m.authenticator.attempt world request.headers).2

/-- A request that is admitted is handed on as it is, and one that is not is answered with the
rejection. -/
theorem call_of_admission (m : Middleware σ π) (service : Service σ π β ε ρ) (raise : Rejection → ε)
    (world : σ) (request : Request β) :
    ∃ w, match m.admission world request with
      | .error r => innerCalls (m.calls service raise world request) = [] ∧
        m.call service raise world request = (w, .error (raise r))
      | .ok payload => innerCalls (m.calls service raise world request) = [(request, payload)] ∧
        m.call service raise world request = service w request payload := by
  by_cases h : request.path ∈ m.bypass
  · refine ⟨world, ?_⟩
    rw [admission, if_pos h, calls_of_bypassed h, call_of_bypassed h]
    exact ⟨rfl, rfl⟩
  · rcases m.authenticator.exists_goes request.headers world with ⟨t, world', hgoes⟩
    refine ⟨m.authenticator.heard world' t, ?_⟩
    rw [admission, if_neg h, hgoes.attempt_eq, calls_of_goes h hgoes, innerCalls_visits,
      call_of_goes h hgoes]
    cases m.authenticator.verdict t.outcome with
    | error r => exact ⟨rfl, rfl⟩
    | ok payload => exact ⟨rfl, rfl⟩

theorem admission_eq_error_iff {r : Rejection} :
    m.admission world request = .error r ↔
      request.path ∉ m.bypass ∧ m.authenticator.raises = true ∧
        ∃ e, (m.authenticator.attempt world request.headers).2 = .error e ∧ r = .ofError e := by
  unfold admission
  split
  · next h => simp [h]
  · next h => simp [h, Authenticator.verdict_eq_error_iff]

theorem admission_eq_ok_some_iff {p : π} :
    m.admission world request = .ok (some p) ↔
      request.path ∉ m.bypass ∧ (m.authenticator.attempt world request.headers).2 = .ok p := by
  unfold admission
  split
  · next h => simp [h]
  · next h => simp [h, Authenticator.verdict_eq_ok_some_iff]

/-- The path of a request is guarded, the mode raises and the attempt fails. -/
def Refuses (m : Middleware σ π) (world : σ) (request : Request β) : Prop :=
  request.path ∉ m.bypass ∧ m.authenticator.raises = true ∧
    ∃ e, (m.authenticator.attempt world request.headers).2 = .error e

theorem refuses_iff : m.Refuses world request ↔ ∃ r, m.admission world request = .error r := by
  simp only [admission_eq_error_iff, Refuses]
  constructor
  · rintro ⟨hguarded, hmode, e, he⟩
    exact ⟨_, hguarded, hmode, e, he, rfl⟩
  · rintro ⟨r, hguarded, hmode, e, he, _⟩
    exact ⟨hguarded, hmode, e, he⟩

theorem innerCalls_eq_nil_iff :
    innerCalls (m.calls service raise world request) = [] ↔ m.Refuses world request := by
  obtain ⟨w, hcall⟩ := m.call_of_admission service raise world request
  rw [refuses_iff]
  cases hadmission : m.admission world request with
  | error r =>
    rw [hadmission] at hcall
    exact ⟨fun _ => ⟨r, rfl⟩, fun _ => hcall.1⟩
  | ok payload =>
    rw [hadmission] at hcall
    simp [hcall.1]

theorem answer_of_refuses (h : m.Refuses world request) :
    ∃ e, (m.authenticator.attempt world request.headers).2 = .error e ∧
      (m.call service raise world request).2 = .error (raise (.ofError e)) := by
  obtain ⟨w, hcall⟩ := m.call_of_admission service raise world request
  rcases refuses_iff.1 h with ⟨r, hadmission⟩
  rw [hadmission] at hcall
  rcases admission_eq_error_iff.1 hadmission with ⟨_, _, e, he, rfl⟩
  exact ⟨e, he, congrArg Prod.snd hcall.2⟩

theorem call_of_not_refuses (h : ¬m.Refuses world request) :
    ∃ payload w, innerCalls (m.calls service raise world request) = [(request, payload)] ∧
      m.call service raise world request = service w request payload := by
  obtain ⟨w, hcall⟩ := m.call_of_admission service raise world request
  cases hadmission : m.admission world request with
  | error r => exact absurd (refuses_iff.2 ⟨r, hadmission⟩) h
  | ok payload =>
    rw [hadmission] at hcall
    exact ⟨payload, w, hcall⟩

theorem mem_innerCalls_iff {p : π} :
    (request, some p) ∈ innerCalls (m.calls service raise world request) ↔
      request.path ∉ m.bypass ∧ (m.authenticator.attempt world request.headers).2 = .ok p := by
  obtain ⟨w, hcall⟩ := m.call_of_admission service raise world request
  rw [← admission_eq_ok_some_iff]
  cases hadmission : m.admission world request with
  | error r =>
    rw [hadmission] at hcall
    simp [hcall.1]
  | ok payload =>
    rw [hadmission] at hcall
    simp [hcall.1, eq_comm]

/-! ## Runs -/

variable (m service raise)

theorem run_append (world : σ) (before after : List (Request β)) :
    m.run service raise world (before ++ after) =
      ((m.run service raise (m.run service raise world before).1 after).1,
        (m.run service raise world before).2 ++
          (m.run service raise (m.run service raise world before).1 after).2) := by
  induction before generalizing world with
  | nil => rfl
  | cons request before ih => simp [run, ih]

/-- Watching a run changes nothing. -/
theorem watched_run (world : σ) (log : List (Visit π β)) (requests : List (Request β)) :
    m.watched.run (Service.watched service) raise (world, log) requests =
      (((m.run service raise world requests).1, log ++ m.runCalls service raise world requests),
        (m.run service raise world requests).2) := by
  unfold runCalls
  induction requests generalizing world log with
  | nil => simp [run]
  | cons request requests ih =>
    simp only [run, watched_call]
    -- The list of the first call stands before those of the others, whatever it starts from.
    rw [ih, ih _ ([] ++ _)]
    simp

theorem runCalls_cons (world : σ) (request : Request β) (requests : List (Request β)) :
    m.runCalls service raise world (request :: requests) =
      m.calls service raise world request ++
        m.runCalls service raise (m.call service raise world request).1 requests := by
  rw [runCalls, run, watched_call, List.nil_append]
  simp only [watched_run]

theorem runCalls_append (world : σ) (before after : List (Request β)) :
    m.runCalls service raise world (before ++ after) =
      m.runCalls service raise world before ++
        m.runCalls service raise (m.run service raise world before).1 after := by
  rw [runCalls, run_append]
  simp only [watched_run, List.nil_append]

end Middleware

/-! ## What an authenticator looks at -/

/-- An authenticator looks at a view of its surroundings only: where the view is the same, decoder
and verifier give the same results, and the same view is left. -/
structure Authenticator.LooksAt (a : Authenticator σ π) (view : σ → κ) : Prop where
  decode : ∀ {w w' : σ} (token : BearerToken), view w = view w' →
    view (a.decode w token).1 = view (a.decode w' token).1 ∧
      (a.decode w token).2 = (a.decode w' token).2
  verify : ∀ {w w' : σ} (token : BearerToken) (payload : π), view w = view w' →
    view (a.verify w token payload).1 = view (a.verify w' token payload).1 ∧
      (a.verify w token payload).2 = (a.verify w' token payload).2
  hook : ∀ hook ∈ a.hooks, ∀ {w w' : σ} (r : Rejection), view w = view w' →
    view (hook w r) = view (hook w' r)

namespace Authenticator

open Session (Attempt)

variable {a : Authenticator σ π} {view : σ → κ} {world world' alone : σ} {headers : List Header}
  {t : Attempt π}

/-- Where the view is the same, an attempt goes the same way. -/
theorem LooksAt.goes (h : a.LooksAt view) (halone : view alone = view world)
    (hgoes : a.Goes headers world t world') :
    ∃ left, a.Goes headers alone t left ∧ view left = view world' := by
  cases hgoes with
  | withoutToken htoken => exact ⟨alone, .withoutToken htoken, halone⟩
  | @undecoded token e decoded htoken hdecode =>
    obtain ⟨hview, hresult⟩ := h.decode token halone
    rw [hdecode] at hview hresult
    -- The decoder has failed in both surroundings, with one error.
    exact ⟨_, .undecoded htoken (Prod.ext rfl hresult), hview⟩
  | @unverified token payload e decoded verified htoken hdecode hverify =>
    obtain ⟨hview, hresult⟩ := h.decode token halone
    rw [hdecode] at hview hresult
    -- What the decoder leaves looks the same, so the verifier gives the same result in turn.
    obtain ⟨hview', hresult'⟩ := h.verify token payload hview
    rw [hverify] at hview' hresult'
    exact ⟨_, .unverified htoken (Prod.ext rfl hresult) (Prod.ext rfl hresult'), hview'⟩
  | @verified token payload decoded verified htoken hdecode hverify =>
    obtain ⟨hview, hresult⟩ := h.decode token halone
    rw [hdecode] at hview hresult
    obtain ⟨hview', hresult'⟩ := h.verify token payload hview
    rw [hverify] at hview' hresult'
    exact ⟨_, .verified htoken (Prod.ext rfl hresult) (Prod.ext rfl hresult'), hview'⟩

theorem view_foldl_hooks {hooks : List (σ → Rejection → σ)} (r : Rejection)
    (h : ∀ hook ∈ hooks, ∀ {w w' : σ}, view w = view w' → view (hook w r) = view (hook w' r))
    (halone : view alone = view world) :
    view (hooks.foldl (fun world hook => hook world r) alone) =
      view (hooks.foldl (fun world hook => hook world r) world) := by
  induction hooks generalizing alone world with
  | nil => exact halone
  | cons hook hooks ih =>
    rcases List.forall_mem_cons.1 h with ⟨hhook, hhooks⟩
    exact ih hhooks (hhook halone)

theorem LooksAt.heard (h : a.LooksAt view) (halone : view alone = view world) (t : Attempt π) :
    view (a.heard alone t) = view (a.heard world t) := by
  unfold Authenticator.heard
  cases t.rejection? with
  | none => exact halone
  | some r => exact view_foldl_hooks r (fun hook hmem => h.hook hook hmem r) halone

end Authenticator

namespace Middleware

open Session (Attempt)

variable {m : Middleware σ π} {service : Service σ π β ε ρ} {raise : Rejection → ε}
  {view : σ → κ} {world alone : σ} {request : Request β}

/-- Where the view is the same, the same calls are made for a request. -/
theorem calls_eq_of_view_eq (h : m.authenticator.LooksAt view) (halone : view alone = view world) :
    m.calls service raise alone request = m.calls service raise world request := by
  by_cases hb : request.path ∈ m.bypass
  · rw [calls_of_bypassed hb, calls_of_bypassed hb]
  · rcases m.authenticator.exists_goes request.headers world with ⟨t, world', hgoes⟩
    rcases h.goes halone hgoes with ⟨left, hgoes', _⟩
    rw [calls_of_goes hb hgoes, calls_of_goes hb hgoes']

theorem attempt_eq_of_view_eq (h : m.authenticator.LooksAt view) (halone : view alone = view world) :
    (m.authenticator.attempt alone request.headers).2 =
      (m.authenticator.attempt world request.headers).2 := by
  rcases m.authenticator.exists_goes request.headers world with ⟨t, world', hgoes⟩
  rcases h.goes halone hgoes with ⟨left, hgoes', _⟩
  rw [hgoes.attempt_eq, hgoes'.attempt_eq]

/-- Where the view is the same and the inner service answers by it, the answer is the same. -/
theorem answer_eq_of_view_eq (h : m.authenticator.LooksAt view)
    (hservice : ∀ w w' payload, view w = view w' →
      (service w request payload).2 = (service w' request payload).2)
    (halone : view alone = view world) :
    (m.call service raise alone request).2 = (m.call service raise world request).2 := by
  by_cases hb : request.path ∈ m.bypass
  · rw [call_of_bypassed hb, call_of_bypassed hb]
    exact hservice alone world none halone
  · rcases m.authenticator.exists_goes request.headers world with ⟨t, world', hgoes⟩
    rcases h.goes halone hgoes with ⟨left, hgoes', hleft⟩
    rw [call_of_goes hb hgoes, call_of_goes hb hgoes']
    -- A refusal is the same anywhere; an admitted request meets the same view again.
    cases m.authenticator.verdict t.outcome with
    | error r => rfl
    | ok payload => exact hservice _ _ payload (h.heard hleft t)

/-- A view that no call changes is the same after any run. -/
theorem view_run (h : ∀ w request, view (m.call service raise w request).1 = view w) (world : σ)
    (requests : List (Request β)) : view (m.run service raise world requests).1 = view world := by
  induction requests generalizing world with
  | nil => rfl
  | cons request requests ih =>
    calc
      view (m.run service raise world (request :: requests)).1
          = view (m.call service raise world request).1 := ih _
      _ = view world := h world request

/-- Any request in any run is answered by a call of its own. The inner service is left out exactly
when the path is guarded, the mode raises and the attempt fails, and then the answer is made from
the rejection of this attempt; otherwise it answers, called once with the very request. A payload
goes along exactly when the path is guarded and the attempt succeeds, and is the one that the
attempt ends with. For a path that is not guarded nothing else is called. All this is as it would be
for the request alone, wherever the authenticator sees the same; and what it sees is the same all
along if no call changes it. -/
theorem each_request_judged_alone (m : Middleware σ π) (service : Service σ π β ε ρ)
    (raise : Rejection → ε) (world : σ) (before after : List (Request β)) (request : Request β) :
    let here := (m.run service raise world before).1
    let done := m.call service raise here request
    let calls := m.calls service raise here request
    let outcome := (m.authenticator.attempt here request.headers).2
    let Refused := request.path ∉ m.bypass ∧ m.authenticator.raises = true ∧
      ∃ e, outcome = .error e
    (m.run service raise world (before ++ request :: after)).2 =
        (m.run service raise world before).2 ++ done.2 :: (m.run service raise done.1 after).2 ∧
      m.runCalls service raise world (before ++ request :: after) =
        m.runCalls service raise world before ++ calls ++ m.runCalls service raise done.1 after ∧
      (innerCalls calls = [] ↔ Refused) ∧
      (Refused → ∃ e, outcome = .error e ∧ done.2 = .error (raise (.ofError e))) ∧
      (¬Refused → ∃ payload w, innerCalls calls = [(request, payload)] ∧
        done = service w request payload) ∧
      (∀ p, (request, some p) ∈ innerCalls calls ↔ request.path ∉ m.bypass ∧ outcome = .ok p) ∧
      (request.path ∈ m.bypass → calls = [.inner request none]) ∧
      ∀ (κ : Type) (view : σ → κ), m.authenticator.LooksAt view →
        (∀ alone, view alone = view here →
          (m.authenticator.attempt alone request.headers).2 = outcome ∧
          m.calls service raise alone request = calls ∧
          ((∀ w w' payload, view w = view w' →
            (service w request payload).2 = (service w' request payload).2) →
              (m.call service raise alone request).2 = done.2)) ∧
        ((∀ w r, view (m.call service raise w r).1 = view w) → view here = view world) := by
  intro here done calls outcome Refused
  refine ⟨?_, ?_, innerCalls_eq_nil_iff, answer_of_refuses, call_of_not_refuses,
    fun p => mem_innerCalls_iff, calls_of_bypassed, ?_⟩
  -- The request stands where the run before it ends, and the run after it starts where it ends.
  · rw [run_append]
    rfl
  · rw [runCalls_append, runCalls_cons, List.append_assoc]
  · intro κ view hview
    refine ⟨fun alone halone => ⟨?_, ?_, fun hservice => ?_⟩, fun hkeeps => ?_⟩
    · exact attempt_eq_of_view_eq hview halone
    · exact calls_eq_of_view_eq hview halone
    · exact answer_eq_of_view_eq hview hservice halone
    · exact view_run hkeeps world before

end Middleware

namespace Sample

/-- Guards every path but one with the sample keys. -/
def middleware : Middleware (InstalledSet × Unit) Payload :=
  ⟨(gates ()).authenticator now, ["/health"]⟩

/-- An inner service that says whether a payload has come along. -/
def service : Service (InstalledSet × Unit) Payload Unit Rejection Bool :=
  fun world _ payload => (world, .ok payload.isSome)

def surroundings : InstalledSet × Unit :=
  (.initial keys, ())

def anonymous : Request Unit :=
  ⟨"/", [], ()⟩

def request : Request Unit :=
  ⟨"/", headers, ()⟩

/-- The authenticator of the sample looks at nothing but the store. -/
theorem middleware_looksAt : middleware.authenticator.LooksAt Prod.fst where
  decode := by
    rintro ⟨store, rest⟩ ⟨store', rest'⟩ token rfl
    exact ⟨rfl, rfl⟩
  verify := by
    rintro ⟨store, rest⟩ ⟨store', rest'⟩ token payload rfl
    exact ⟨rfl, rfl⟩
  hook := by
    intro hook hmem
    cases hmem

end Sample

namespace Middleware

/-- The sample token is let through with its payload after a request without one has been answered,
by an authenticator that looks at nothing but the store. -/
theorem sample_request_let_through :
    (Sample.middleware.run Sample.service id Sample.surroundings
        [Sample.anonymous, Sample.request]).2 =
      [.error (.ofError Credentials.missing), .ok true] ∧
    innerCalls (Sample.middleware.calls Sample.service id Sample.surroundings Sample.request) =
      [(Sample.request, some Sample.payload)] ∧
    Sample.middleware.authenticator.LooksAt Prod.fst := by
  obtain ⟨hanswers, _, _, _, hadmitted, hpayload, _⟩ :=
    each_request_judged_alone Sample.middleware Sample.service id Sample.surroundings
      [Sample.anonymous] [] Sample.request
  have hhere : (Sample.middleware.run Sample.service id Sample.surroundings [Sample.anonymous]).1 =
      Sample.surroundings := rfl
  have hanonymous :
      (Sample.middleware.run Sample.service id Sample.surroundings [Sample.anonymous]).2 =
        [.error (.ofError Credentials.missing)] := rfl
  rw [hhere, hanonymous] at hanswers
  rw [hhere] at hadmitted hpayload
  have houtcome :
      (Sample.middleware.authenticator.attempt Sample.surroundings Sample.headers).2 =
        .ok Sample.payload :=
    ((Sample.gates ()).attempt_authenticator _ _ _ _).2.trans (Sample.judge_headers ())
  have haccepted : ¬(Sample.request.path ∉ Sample.middleware.bypass ∧
      Sample.middleware.authenticator.raises = true ∧ ∃ e,
        (Sample.middleware.authenticator.attempt Sample.surroundings Sample.headers).2 =
          .error e) := by
    rintro ⟨_, _, e, he⟩
    cases houtcome.symm.trans he
  obtain ⟨payload, w, hinner, hdone⟩ := hadmitted haccepted
  have hguarded : Sample.request.path ∉ Sample.middleware.bypass := by decide
  have hmem := (hpayload Sample.payload).2 ⟨hguarded, houtcome⟩
  obtain rfl : payload = some Sample.payload := by
    rw [hinner] at hmem
    exact (Prod.mk.inj (List.mem_singleton.1 hmem)).2.symm
  refine ⟨?_, hinner, Sample.middleware_looksAt⟩
  rw [hdone] at hanswers
  exact hanswers

end Middleware

end BearerAuth
