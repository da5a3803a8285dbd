import BearerAuth.Claims.Draft
import BearerAuth.Proofs.Claims.Payload

/-!
# What a completed draft was built from

`PayloadDraft.Completes` lists what each field of a draft has to hold for the draft to be completed
to a payload, as `Payload.ReadFrom` does for a claims object.
-/

namespace BearerAuth.PayloadDraft

variable {name : ClaimName} {d : PayloadDraft} {p : Payload}

theorem list_eq_ok_iff {v : Option Json} {items : List String} :
    list name v = .ok items ↔ ∃ w, v = some w ∧ Claims.stringList w = .ok items := by
  unfold list
  simp only [bind_eq_ok_iff, Claims.present_eq_ok_iff, Claims.about_eq_ok_iff]

theorem instant_eq_ok_iff {t : Option TimestampInput} {i : Instant} :
    instant name t = .ok i ↔ ∃ u, t = some u ∧ Claims.timestamp u = .ok i := by
  unfold instant
  simp only [bind_eq_ok_iff, Claims.present_eq_ok_iff, Claims.about_eq_ok_iff]

/-- Each field of a payload is what the field of the draft reads as. -/
structure Completes (d : PayloadDraft) (p : Payload) : Prop where
  scope : ∃ v, d.scope = some v ∧ Claims.stringList v = .ok p.scope
  aud : ∃ v, d.aud = some v ∧ Claims.stringList v = .ok p.aud
  iss : d.iss = some p.iss
  exp : ∃ t, d.exp = some t ∧ Claims.timestamp t = .ok p.exp
  iat : ∃ t, d.iat = some t ∧ Claims.timestamp t = .ok p.iat
  nbf : ∃ t, d.nbf = some t ∧ Claims.timestamp t = .ok p.nbf
  sub : d.sub = some p.sub

theorem build_eq_ok_iff : d.build = .ok p ↔ d.Completes p := by
  unfold build
  simp only [bind_eq_ok_iff, list_eq_ok_iff, instant_eq_ok_iff, Claims.present_eq_ok_iff, pure,
    Except.pure, Except.ok.injEq]
  constructor
  · rintro ⟨scope, hscope, aud, haud, iss, hiss, exp, hexp, iat, hiat, nbf, hnbf, sub, hsub, rfl⟩
    exact ⟨hscope, haud, hiss, hexp, hiat, hnbf, hsub⟩
  · intro h
    exact ⟨_, h.scope, _, h.aud, _, h.iss, _, h.exp, _, h.iat, _, h.nbf, _, h.sub, rfl⟩

end BearerAuth.PayloadDraft
