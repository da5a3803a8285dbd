import BearerAuth.Proofs.Claims.Draft
import BearerAuth.Proofs.Claims.StringList
import BearerAuth.Verifier

/-!
# Required scopes

The scope verifier lets a payload pass exactly when it grants every required scope, letter case
aside, and otherwise names those that are absent. Required scopes are lower-cased twice, in the list
of the verifier and again when the payload is asked; the second time changes nothing.
-/

namespace BearerAuth

namespace Payload

variable {v : Json} {p : Payload}

/-- The payload was made with `v` as its scope, from a claims object or field by field. -/
inductive ScopedBy (v : Json) (p : Payload) : Prop
  | ofClaims (claims : Json.Members) (hv : Claims.scopeValue? claims = some v)
    (h : ofClaims claims = .ok p)
  | build (draft : PayloadDraft) (hv : draft.scope = some v) (h : draft.build = .ok p)

theorem ScopedBy.stringList_eq (h : p.ScopedBy v) : Claims.stringList v = .ok p.scope := by
  cases h with
  | ofClaims claims hv h =>
    rcases (ofClaims_eq_ok_iff.1 h).scope with ⟨w, hw, hscope⟩
    obtain rfl : v = w := Option.some.inj (hv.symm.trans hw)
    exact hscope
  | build draft hv h =>
    rcases (PayloadDraft.build_eq_ok_iff.1 h).scope with ⟨w, hw, hscope⟩
    obtain rfl : v = w := Option.some.inj (hv.symm.trans hw)
    exact hscope

theorem hasScope_iff (p : Payload) (r : String) :
    p.hasScope r = true ↔ Text.lower r ∈ p.scope := by
  simp [hasScope]

end Payload

namespace Verifier

variable {v : Json} {p : Payload}

/-- Asking for a scope in lower case is asking for the scope. -/
theorem hasScope_lower (p : Payload) (r : String) : p.hasScope (Text.lower r) = p.hasScope r := by
  simp only [Payload.hasScope, Text.lower_lower]

theorem missingScopes_eq (required : List String) (p : Payload) :
    missingScopes required p = (required.map Text.lower).filter fun r => r ∉ p.scope := by
  unfold missingScopes lowered
  apply List.filter_congr
  intro r hr
  rcases List.mem_map.1 hr with ⟨scope, _, rfl⟩
  -- The scope has been lower-cased before the payload lower-cases it.
  rw [hasScope_lower, Payload.hasScope, List.contains_eq_mem, decide_not]

theorem missingScopes_eq_nil_iff {required : List String} :
    missingScopes required p = [] ↔ ∀ r ∈ required, Text.lower r ∈ p.scope := by
  rw [missingScopes_eq]
  simp [List.filter_eq_nil_iff]

theorem requireScopes_eq_ok_iff {required : List String} :
    requireScopes required p = .ok () ↔ ∀ r ∈ required, Text.lower r ∈ p.scope := by
  rw [← missingScopes_eq_nil_iff]
  unfold requireScopes
  cases missingScopes required p with
  | nil => simp
  | cons scope missing => simp

theorem requireScopes_of_missing {required : List String}
    (h : ¬∀ r ∈ required, Text.lower r ∈ p.scope) :
    requireScopes required p = .error (.notVerified
      ("Missing required scopes: " ++ String.intercalate ", " (missingScopes required p)) none) := by
  rw [← missingScopes_eq_nil_iff] at h
  unfold requireScopes
  simp [h]

/-- The verifier looks at the scopes of a payload and at required scopes in lower case only. -/
theorem requireScopes_congr {required required' : List String} {q : Payload}
    (hrequired : required'.map Text.lower = required.map Text.lower) (hscope : q.scope = p.scope) :
    requireScopes required' q = requireScopes required p := by
  have hmissing : missingScopes required' q = missingScopes required p := by
    rw [missingScopes_eq, missingScopes_eq, hrequired, hscope]
  simp only [requireScopes, hmissing]

/-- Scopes are enforced exactly. The scopes of a payload are what its scope claim reads as, for a
string the words of its lower-case form. A payload passes when the lower-case form of every required
scope is among them; otherwise the error names the absent ones, in order and with repetitions. Texts
with the same lower-case form are interchangeable, among the required scopes and as scope claim; and
asking for a single scope is asking whether the payload has it. -/
theorem required_scopes_enforced (hp : p.ScopedBy v) (required : List String) :
    let absent := (required.map Text.lower).filter fun r => r ∉ p.scope
    Claims.stringList v = .ok p.scope ∧
      (∀ s, v = .str s → p.scope = (Text.words (Text.lower s).toList).map String.ofList) ∧
      (requireScopes required p = .ok () ↔ ∀ r ∈ required, Text.lower r ∈ p.scope) ∧
      ((¬∀ r ∈ required, Text.lower r ∈ p.scope) → requireScopes required p =
        .error (.notVerified
          ("Missing required scopes: " ++ String.intercalate ", " absent) none)) ∧
      (∀ required', required'.map Text.lower = required.map Text.lower →
        requireScopes required' p = requireScopes required p) ∧
      (∀ s s', v = .str s → Text.lower s' = Text.lower s →
        Claims.stringList (.str s') = .ok p.scope ∧
          ∀ q : Payload, q.ScopedBy (.str s') →
            requireScopes required q = requireScopes required p) ∧
      ∀ r, requireScopes [r] p = .ok () ↔ p.hasScope r = true := by
  intro absent
  have hscope := hp.stringList_eq
  refine ⟨hscope, ?_, requireScopes_eq_ok_iff, ?_, ?_, ?_, ?_⟩
  · rintro s rfl
    rw [Text.lower, String.toList_ofList]
    exact (Claims.nonempty_eq_ok_iff.1 hscope).2.symm
  · intro hmissing
    rw [requireScopes_of_missing hmissing, missingScopes_eq]
  · intro required' hrequired
    exact requireScopes_congr hrequired rfl
  · rintro s s' rfl hlower
    -- A string is read through its lower-case form.
    have hsame : Text.lowerChars s'.toList = Text.lowerChars s.toList := by
      simpa [Text.lower] using congrArg String.toList hlower
    have hread : Claims.stringList (.str s') = Claims.stringList (.str s) := by
      simp only [Claims.stringList, Claims.lowerWords, hsame]
    refine ⟨hread.trans hscope, ?_⟩
    intro q hq
    have hscopes : q.scope = p.scope :=
      Except.ok.inj (hq.stringList_eq.symm.trans (hread.trans hscope))
    exact requireScopes_congr rfl hscopes
  · intro r
    rw [requireScopes_eq_ok_iff, Payload.hasScope_iff]
    simp

end Verifier

namespace Sample

def grantDraft : PayloadDraft :=
  .ofFields [.scope (.str "ΟΔΟΣ  Read"), .aud (.str "a"), .iss "i", .exp (.seconds 60),
    .iat (.seconds 0), .nbf (.seconds 0), .sub "s"]

def grant : Payload :=
  ⟨["οδος", "read"], ["a"], "i", .ofSeconds 60, .ofSeconds 0, .ofSeconds 0, "s"⟩

theorem grant_scopedBy : grant.ScopedBy (.str "ΟΔΟΣ  Read") :=
  .build grantDraft rfl (by decide +kernel)

end Sample

/-- Scopes that are granted up to letter case pass, and an absent one is named as often as it is
asked for. -/
theorem Verifier.sample_scopes_enforced :
    Sample.grant.ScopedBy (.str "ΟΔΟΣ  Read") ∧
      requireScopes ["READ", "οδος"] Sample.grant = .ok () ∧
      requireScopes ["Admin", "read", "ADMIN"] Sample.grant =
        .error (.notVerified "Missing required scopes: admin, admin" none) := by
  have hscoped := Sample.grant_scopedBy
  obtain ⟨_, _, hpasses, _⟩ := required_scopes_enforced hscoped ["READ", "οδος"]
  obtain ⟨_, _, _, hfails, _⟩ := required_scopes_enforced hscoped ["Admin", "read", "ADMIN"]
  refine ⟨hscoped, hpasses.2 (by decide +kernel), ?_⟩
  have htext : "Missing required scopes: " ++ String.intercalate ", "
      ((["Admin", "read", "ADMIN"].map Text.lower).filter fun r => r ∉ Sample.grant.scope) =
        "Missing required scopes: admin, admin" := by
    decide +kernel
  rw [← htext]
  exact hfails (by decide +kernel)

end BearerAuth
