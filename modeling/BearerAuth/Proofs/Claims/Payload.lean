import BearerAuth.Proofs.Claims.Timestamp
import BearerAuth.Proofs.Token.Registered

/-!
# What a payload says about the claims it was read from

`Payload.ReadFrom` lists what each field of a payload was read from, and a claims object reads as a
payload exactly when every field does. A timestamp in a payload may come from a number or from a
text, while the comparison of registered claims takes numbers only; where both readings give a
value, they give the same second.
-/

namespace BearerAuth

namespace Claims

variable {α : Type} {name : ClaimName} {v : Json} {a : α}

theorem about_eq_ok_iff {x : Except ClaimsError α} : about name x = .ok a ↔ x = .ok a := by
  cases x with
  | error e => simp [about]
  | ok b => simp [about]

theorem present_eq_ok_iff {x : Option α} : present name x = .ok a ↔ x = some a := by
  cases x with
  | none => simp [present]
  | some b => simp [present]

/-- A claim is read from the member of its name, which has to be there. -/
theorem claim_eq_ok_iff {read : Json → Except ClaimsError α} {claims : Json.Members} :
    claim read claims name = .ok a ↔ ∃ v, claims.get? name.key = some v ∧ read v = .ok a := by
  unfold claim
  simp only [bind_eq_ok_iff, present_eq_ok_iff, about_eq_ok_iff]

theorem plainText_eq_ok_iff {s : String} : plainText v = .ok s ↔ v = .str s := by
  cases v with
  | str t => simp [plainText]
  | _ => simp [plainText]

/-- A timestamp that the comparison of registered claims has read as well is the same second
there. -/
theorem eq_ofSeconds_of_seconds? {t : Instant} {n : Nat} (h : timestampValue v = .ok t)
    (hn : Registered.seconds? v = some n) : t = Instant.ofSeconds n := by
  cases v with
  | num number =>
    -- Payloads take integers only, so the rounding of the comparison plays no part.
    cases number with
    | int i =>
      have hnat : 0 ≤ i ∧ i.toNat = n := by simpa [Registered.seconds?] using hn
      have hbounded : boundedInstant i = .ok t := (timestampValue_ofInt i).symm.trans h
      rcases boundedInstant_eq_ok_iff.1 hbounded with ⟨_, rfl⟩
      rw [← hnat.2, Int.toNat_of_nonneg hnat.1]
    | double x => cases h
  -- Payloads take texts as well, but those are never compared.
  | _ => simp [Registered.seconds?] at hn

end Claims

namespace Payload

/-- Each field of a payload is what its claim reads as. -/
structure ReadFrom (claims : Json.Members) (p : Payload) : Prop where
  scope : ∃ v, Claims.scopeValue? claims = some v ∧ Claims.stringList v = .ok p.scope
  aud : ∃ v, claims.get? "aud" = some v ∧ Claims.stringList v = .ok p.aud
  iss : claims.get? "iss" = some (.str p.iss)
  exp : ∃ v, claims.get? "exp" = some v ∧ Claims.timestampValue v = .ok p.exp
  iat : ∃ v, claims.get? "iat" = some v ∧ Claims.timestampValue v = .ok p.iat
  nbf : ∃ v, claims.get? "nbf" = some v ∧ Claims.timestampValue v = .ok p.nbf
  sub : claims.get? "sub" = some (.str p.sub)

theorem ofClaims_eq_ok_iff {claims : Json.Members} {p : Payload} :
    ofClaims claims = .ok p ↔ ReadFrom claims p := by
  unfold ofClaims
  simp only [bind_eq_ok_iff, Claims.present_eq_ok_iff, Claims.about_eq_ok_iff,
    Claims.claim_eq_ok_iff, Claims.plainText_eq_ok_iff, ClaimName.key, pure, Except.pure,
    Except.ok.injEq]
  constructor
  · rintro ⟨scope, hscope, aud, haud, iss, ⟨_, hiss, rfl⟩, exp, hexp, iat, hiat, nbf, hnbf, sub,
      ⟨_, hsub, rfl⟩, rfl⟩
    exact ⟨hscope, haud, hiss, hexp, hiat, hnbf, hsub⟩
  · intro h
    exact ⟨_, h.scope, _, h.aud, _, ⟨_, h.iss, rfl⟩, _, h.exp, _, h.iat, _, h.nbf, _,
      ⟨_, h.sub, rfl⟩, rfl⟩

end Payload

end BearerAuth
