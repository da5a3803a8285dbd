import BearerAuth.Introspection.Client
import BearerAuth.Proofs.Introspection.Response

/-!
# Introspection fails closed

A token passes only if the endpoint says so: it answers with success, the body is a response, the
response says that the token is active and, where subjects are compared, it does not name another
subject. A question without an answer, an inactive token and another subject are told apart by the
error.
-/

namespace BearerAuth

theorem Http.Status.isSuccess_iff {s : Http.Status} :
    s.isSuccess = true ↔ 200 ≤ s.code ∧ s.code < 300 := by
  simp [isSuccess]

variable {endpoint : Http.Endpoint} {token : BearerToken} {payload : Payload}
  {r : IntrospectionResponse} {response : Http.Response}

namespace IntrospectionClient

variable {c : IntrospectionClient} {text : String} {hint : Option String} {e : IntrospectionError}

/-- The endpoint answers the question with success, and the body is this response. -/
def Answers (endpoint : Http.Endpoint) (question : Http.Message) (r : IntrospectionResponse) :
    Prop :=
  ∃ response, endpoint question = some response ∧
    (200 ≤ response.status.code ∧ response.status.code < 300) ∧
    IntrospectionResponse.IsBody response.body r

/-- How a question goes without an answer. -/
inductive Unanswered (endpoint : Http.Endpoint) (question : Http.Message) :
    IntrospectionError → Prop
  | closed (h : endpoint question = none) : Unanswered endpoint question .http
  | refused {response : Http.Response} (h : endpoint question = some response)
    (hstatus : ¬(200 ≤ response.status.code ∧ response.status.code < 300)) :
    Unanswered endpoint question
      (.status response.status (Text.Utf8.decodeReplacing response.body))
  | unreadable {response : Http.Response} (h : endpoint question = some response)
    (hstatus : 200 ≤ response.status.code ∧ response.status.code < 300)
    (hbody : ∀ r, ¬IntrospectionResponse.IsBody response.body r) :
    Unanswered endpoint question .invalidResponse

theorem interpret_of_refused
    (h : ¬(200 ≤ response.status.code ∧ response.status.code < 300)) :
    interpret response =
      .error (.status response.status (Text.Utf8.decodeReplacing response.body)) := by
  have hstatus : response.status.isSuccess = false :=
    Bool.eq_false_iff.2 (mt Http.Status.isSuccess_iff.1 h)
  simp [interpret, hstatus]

theorem interpret_of_isBody (h : 200 ≤ response.status.code ∧ response.status.code < 300)
    (hbody : IntrospectionResponse.IsBody response.body r) : interpret response = .ok r := by
  simp [interpret, Http.Status.isSuccess_iff.2 h, IntrospectionResponse.isBody_iff.1 hbody]

theorem interpret_of_not_isBody (h : 200 ≤ response.status.code ∧ response.status.code < 300)
    (hbody : ∀ r, ¬IntrospectionResponse.IsBody response.body r) :
    interpret response = .error .invalidResponse := by
  have hnone :
      (Text.Utf8.decode? response.body).bind IntrospectionResponse.ofChars? = none :=
    Option.eq_none_iff_forall_ne_some.2 fun r hr =>
      hbody r (IntrospectionResponse.isBody_iff.2 hr)
  simp [interpret, Http.Status.isSuccess_iff.2 h, hnone]

/-- A question has an answer, which is handed on, or goes without for one reason. -/
theorem introspect_cases (c : IntrospectionClient) (endpoint : Http.Endpoint) (text : String)
    (hint : Option String) :
    (∃ r, Answers endpoint (c.request text hint) r ∧ c.introspect endpoint text hint = .ok r) ∨
      ∃ e, Unanswered endpoint (c.request text hint) e ∧
        c.introspect endpoint text hint = .error e := by
  unfold introspect
  cases hresponse : endpoint (c.request text hint) with
  | none => exact .inr ⟨.http, .closed hresponse, rfl⟩
  | some response =>
    by_cases hstatus : 200 ≤ response.status.code ∧ response.status.code < 300
    · by_cases hbody : ∃ r, IntrospectionResponse.IsBody response.body r
      · rcases hbody with ⟨r, hr⟩
        exact .inl ⟨r, ⟨response, hresponse, hstatus, hr⟩, interpret_of_isBody hstatus hr⟩
      · rw [not_exists] at hbody
        exact .inr ⟨.invalidResponse, .unreadable hresponse hstatus hbody,
          interpret_of_not_isBody hstatus hbody⟩
    · exact .inr ⟨_, .refused hresponse hstatus, interpret_of_refused hstatus⟩

theorem introspect_eq_ok_iff :
    c.introspect endpoint text hint = .ok r ↔ Answers endpoint (c.request text hint) r := by
  constructor
  · intro h
    rcases introspect_cases c endpoint text hint with ⟨r', hanswers, hr'⟩ | ⟨e, _, he⟩
    · obtain rfl : r' = r := Except.ok.inj (hr'.symm.trans h)
      exact hanswers
    · cases he.symm.trans h
  · rintro ⟨response, hresponse, hstatus, hbody⟩
    simp only [introspect, hresponse]
    exact interpret_of_isBody hstatus hbody

theorem introspect_eq_error_iff :
    c.introspect endpoint text hint = .error e ↔
      Unanswered endpoint (c.request text hint) e := by
  constructor
  · intro h
    rcases introspect_cases c endpoint text hint with ⟨r, _, hr⟩ | ⟨e', hunanswered, he'⟩
    · cases hr.symm.trans h
    · obtain rfl : e' = e := Except.error.inj (he'.symm.trans h)
      exact hunanswered
  · intro h
    unfold introspect
    cases h with
    | closed hresponse => rw [hresponse]
    | refused hresponse hstatus =>
      rw [hresponse]
      exact interpret_of_refused hstatus
    | unreadable hresponse hstatus hbody =>
      rw [hresponse]
      exact interpret_of_not_isBody hstatus hbody

end IntrospectionClient

namespace IntrospectionVerifier

open IntrospectionClient (Answers Unanswered accessTokenHint introspect_eq_ok_iff
  introspect_eq_error_iff)

variable {v : IntrospectionVerifier} {e : AuthError}

/-- What the verifier asks the endpoint. -/
def question (v : IntrospectionVerifier) (token : BearerToken) : Http.Message :=
  v.client.request token.text (some accessTokenHint)

theorem judge_eq_ok_iff :
    v.judge payload r = .ok () ↔
      r.active = true ∧
        (v.checksSubject = false ∨ r.sub = none ∨ r.sub = some payload.sub) := by
  unfold judge
  cases r.active with
  | false => simp
  | true =>
    cases v.checksSubject with
    | false => simp
    | true => cases r.sub with
      | none => simp
      | some sub => simp

theorem judge_eq_error_iff :
    v.judge payload r = .error e ↔
      r.active = false ∧ e = .notVerified inactiveText none ∨
        r.active = true ∧ v.checksSubject = true ∧
          (∃ sub, r.sub = some sub ∧ sub ≠ payload.sub) ∧ e = .notVerified subjectText none := by
  unfold judge
  cases r.active with
  | false => simp [eq_comm (a := e)]
  | true =>
    cases v.checksSubject with
    | false => simp
    | true => cases r.sub with
      | none => simp
      | some sub =>
        by_cases hsub : sub = payload.sub
        · simp [hsub]
        · simp [hsub, eq_comm (a := e)]

theorem verify_eq_ok_iff :
    v.verify endpoint token payload = .ok () ↔
      ∃ r, Answers endpoint (v.question token) r ∧ v.judge payload r = .ok () := by
  simp only [question, ← introspect_eq_ok_iff]
  unfold verify
  cases v.client.introspect endpoint token.text (some accessTokenHint) with
  | error e => simp
  | ok r => simp

theorem verify_eq_error_iff :
    v.verify endpoint token payload = .error e ↔
      (∃ cause, Unanswered endpoint (v.question token) cause ∧
          e = .notVerified failedText (some (.introspection cause))) ∨
        ∃ r, Answers endpoint (v.question token) r ∧ v.judge payload r = .error e := by
  simp only [question, ← introspect_eq_ok_iff, ← introspect_eq_error_iff]
  unfold verify
  cases v.client.introspect endpoint token.text (some accessTokenHint) with
  | error cause => simp [eq_comm (a := e)]
  | ok r => simp

/-- Introspection fails closed. A token passes exactly when the endpoint answers with success and a
response, the response says that the token is active, and either subjects are not compared, or the
response has no subject, or it has that of the payload. Otherwise the token is not verified: for
want of an answer, which the error tells; because it is inactive, whatever the subject; or for
another subject. Comparing subjects accepts nothing more, and a response with anything but blanks
after it is none. -/
theorem introspection_fails_closed (v : IntrospectionVerifier) (endpoint : Http.Endpoint)
    (token : BearerToken) (payload : Payload) :
    (v.verify endpoint token payload = .ok () ↔
      ∃ r, Answers endpoint (v.question token) r ∧ r.active = true ∧
        (v.checksSubject = false ∨ r.sub = none ∨ r.sub = some payload.sub)) ∧
    (∀ e, v.verify endpoint token payload = .error e ↔
      (∃ cause, Unanswered endpoint (v.question token) cause ∧
        e = .notVerified failedText (some (.introspection cause))) ∨
      (∃ r, Answers endpoint (v.question token) r ∧ r.active = false ∧
        e = .notVerified inactiveText none) ∨
      ∃ r, Answers endpoint (v.question token) r ∧ r.active = true ∧ v.checksSubject = true ∧
        (∃ sub, r.sub = some sub ∧ sub ≠ payload.sub) ∧ e = .notVerified subjectText none) ∧
    (∀ checks, { v with checksSubject := true }.verify endpoint token payload = .ok () →
      { v with checksSubject := checks }.verify endpoint token payload = .ok ()) ∧
    ∀ (status : Http.Status) (body more : List UInt8) (r : IntrospectionResponse),
      200 ≤ status.code ∧ status.code < 300 → IntrospectionResponse.IsBody body r →
        ¬IntrospectionResponse.IsBlank more →
          v.verify (fun _ => some ⟨status, body ++ more⟩) token payload =
            .error (.notVerified failedText (some (.introspection .invalidResponse))) := by
  refine ⟨?_, ?_, ?_, ?_⟩
  · simp only [verify_eq_ok_iff, judge_eq_ok_iff]
  · intro e
    simp only [verify_eq_error_iff, judge_eq_error_iff, and_or_left, exists_or]
  · intro checks h
    rcases verify_eq_ok_iff.1 h with ⟨r, hanswers, hjudge⟩
    rcases judge_eq_ok_iff.1 hjudge with ⟨hactive, hsubject⟩
    refine verify_eq_ok_iff.2 ⟨r, hanswers, judge_eq_ok_iff.2 ⟨hactive, ?_⟩⟩
    -- The subject that was compared is compared again or passed over.
    exact .inr (hsubject.resolve_left (by simp))
  · intro status body more r hstatus hbody hmore
    refine verify_eq_error_iff.2 (.inl ⟨.invalidResponse, .unreadable rfl hstatus ?_, rfl⟩)
    intro r' hr'
    exact hmore (hbody.append_iff.1 hr').1

end IntrospectionVerifier

namespace Sample

def subjectMembers : Json.Members :=
  [("active", .bool true), ("sub", .str "s")]

/-- A response for the subject `s`. -/
def subjectResponse : IntrospectionResponse :=
  ⟨true, none, none, none, none, none, some "s", none, []⟩

def subjectBody : List UInt8 :=
  Text.Utf8.encodeChars (Json.obj subjectMembers).write

theorem subjectBody_isBody : IntrospectionResponse.IsBody subjectBody subjectResponse := by
  have hnests : Json.NestsWithin Json.maxDepth (.obj subjectMembers) :=
    .obj (by simp [subjectMembers, Json.NestsWithin.bool, Json.NestsWithin.str])
  refine ⟨(Json.obj subjectMembers).write, subjectMembers, by decide +kernel, by decide +kernel,
    hnests, ?_⟩
  have habsent : ∀ key ∉ ["active", "sub"], ∀ m ∈ subjectMembers, m.1 ≠ key := by
    rintro key hkey m hm rfl
    exact hkey (List.mem_map_of_mem (f := Prod.fst) hm)
  exact {
    active := rfl
    scope := .absent (habsent _ (by decide))
    clientId := .absent (habsent _ (by decide))
    username := .absent (habsent _ (by decide))
    tokenType := .absent (habsent _ (by decide))
    exp := .absent (habsent _ (by decide))
    sub := .value rfl (by simp) rfl
    iss := .absent (habsent _ (by decide))
    additional := rfl }

def introspector : IntrospectionVerifier :=
  ⟨⟨"http://a/introspect", "c", none⟩, true⟩

def introspected (sub : String) : Payload :=
  ⟨["read"], ["a"], "i", .ofSeconds 60, .ofSeconds 0, .ofSeconds 0, sub⟩

end Sample

/-- An active token of the subject passes, the same response for another subject is a mismatch, and
with a brace after it there is no response. -/
theorem IntrospectionVerifier.sample_introspections :
    Sample.introspector.verify (fun _ => some ⟨⟨200⟩, Sample.subjectBody⟩) ⟨"t"⟩
        (Sample.introspected "s") = .ok () ∧
      Sample.introspector.verify (fun _ => some ⟨⟨200⟩, Sample.subjectBody⟩) ⟨"t"⟩
        (Sample.introspected "S") = .error (.notVerified subjectText none) ∧
      Sample.introspector.verify (fun _ => some ⟨⟨200⟩, Sample.subjectBody ++ [0x7d]⟩) ⟨"t"⟩
        (Sample.introspected "s") =
          .error (.notVerified failedText (some (.introspection .invalidResponse))) := by
  let endpoint : Http.Endpoint := fun _ => some ⟨⟨200⟩, Sample.subjectBody⟩
  have hanswers : IntrospectionClient.Answers endpoint
      (Sample.introspector.question ⟨"t"⟩) Sample.subjectResponse :=
    ⟨_, rfl, by decide, Sample.subjectBody_isBody⟩
  have hbrace : ¬IntrospectionResponse.IsBlank [0x7d] := by
    rintro ⟨cs, hdecode, hblank⟩
    obtain rfl : ['\x7d'] = cs := Option.some.inj hdecode
    exact absurd (hblank _ (List.mem_singleton_self _)) (by decide)
  obtain ⟨hpasses, _, _, htrailing⟩ :=
    introspection_fails_closed Sample.introspector endpoint ⟨"t"⟩ (Sample.introspected "s")
  obtain ⟨_, hfails, _⟩ :=
    introspection_fails_closed Sample.introspector endpoint ⟨"t"⟩ (Sample.introspected "S")
  refine ⟨hpasses.2 ⟨_, hanswers, rfl, .inr (.inr rfl)⟩, (hfails _).2 (.inr (.inr ?_)), ?_⟩
  · exact ⟨_, hanswers, rfl, rfl, ⟨"s", rfl, by decide⟩, rfl⟩
  · exact htrailing ⟨200⟩ _ _ _ (by decide) Sample.subjectBody_isBody hbrace

end BearerAuth
