import BearerAuth.Proofs.Claims.Payload

/-!
# Which fault of a claims object is reported

The claims are checked in a fixed order, each by the check of its own value. Reading a claims object
stops at the first claim that is absent or refused, and the error names this claim; a claims object
without such a claim is read. Nothing else in the object matters.

`ChecksInOrder` says this of a chain of checks, for whatever claims the chain goes through.
-/

namespace BearerAuth

def ClaimName.inOrder : List ClaimName :=
  [.scope, .aud, .iss, .exp, .iat, .nbf, .sub]

theorem ClaimName.mem_inOrder (name : ClaimName) : name ∈ inOrder := by
  cases name with
  | _ => decide

/-- Under the names of claims there is no further error about a claim. -/
theorem ClaimsError.root_ne_invalidClaim (e : ClaimsError) (name : ClaimName)
    (cause : ClaimsError) : e.root ≠ .invalidClaim name cause := by
  induction e with
  | invalidClaim _ _ ih => exact ih
  | _ => exact ClaimsError.noConfusion

namespace Claims

variable {α β : Type} {claims : Json.Members} {name : ClaimName} {names : List ClaimName} {v : Json}
  {e : ClaimsError}

/-! ## Single claims -/

/-- The value that stands for a claim. Only the scope has a second name. -/
def value? (claims : Json.Members) : ClaimName → Option Json
  | .scope => scopeValue? claims
  | name => claims.get? name.key

def check : ClaimName → Json → Except ClaimsError Unit
  | .scope, v | .aud, v => (stringList v).map fun _ => ()
  | .iss, v | .sub, v => (plainText v).map fun _ => ()
  | .exp, v | .iat, v | .nbf, v => (timestampValue v).map fun _ => ()

/-- A claim is there, and its check accepts its value. -/
def Passes (claims : Json.Members) (name : ClaimName) : Prop :=
  ∃ v, value? claims name = some v ∧ check name v = .ok ()

/-- A claim is absent, or its check refuses its value. -/
inductive Fails (claims : Json.Members) (name : ClaimName) : ClaimsError → Prop
  | missing (h : value? claims name = none) : Fails claims name (.missingClaim name)
  | invalid {v : Json} {cause : ClaimsError} (hv : value? claims name = some v)
    (h : check name v = .error cause) : Fails claims name (.invalidClaim name cause)

theorem value?_scope_eq_some_iff :
    value? claims .scope = some v ↔
      claims.get? "scope" = some v ∨ claims.get? "scope" = none ∧ claims.get? "scp" = some v :=
  Option.or_eq_some_iff

theorem value?_of_ne_scope (h : name ≠ .scope) : value? claims name = claims.get? name.key := by
  cases name with
  | scope => exact absurd rfl h
  | _ => rfl

theorem about_eq_error_iff {x : Except ClaimsError α} :
    about name x = .error e ↔ ∃ cause, x = .error cause ∧ .invalidClaim name cause = e := by
  cases x with
  | error cause => simp [about]
  | ok a => simp [about]

theorem present_eq_error_iff {x : Option α} :
    present name x = .error e ↔ x = none ∧ .missingClaim name = e := by
  cases x with
  | none => simp [present]
  | some a => simp [present]

/-! ## The errors of the checks -/

theorem root_eq_of_stringList (h : stringList v = .error e) : e.root = e := by
  have hnonempty : ∀ {items}, nonempty items = .error e → e.root = e := by
    intro items hitems
    unfold nonempty at hitems
    split at hitems
    · obtain rfl := Except.error.inj hitems
      rfl
    · cases hitems
  cases v with
  | str s => exact hnonempty h
  | arr items => exact hnonempty h
  | _ =>
    obtain rfl := Except.error.inj h
    rfl

theorem root_eq_of_plainText (h : plainText v = .error e) : e.root = e := by
  cases v with
  | str s => cases h
  | _ =>
    obtain rfl := Except.error.inj h
    rfl

theorem root_eq_of_timestampInput (h : timestampInput v = .error e) : e.root = e := by
  unfold timestampInput at h
  split at h
  · split at h
    · cases h
    · obtain rfl := Except.error.inj h
      rfl
  · cases h
  · obtain rfl := Except.error.inj h
    rfl

theorem root_eq_of_timestampValue (h : timestampValue v = .error e) : e.root = e := by
  rcases bind_eq_error_iff.1 h with hform | ⟨input, _, hinput⟩
  · exact root_eq_of_timestampInput hform
  · rcases timestamp_eq_error_iff.1 hinput with ⟨_, _, _, rfl⟩ | ⟨_, _, _, rfl⟩
    · rfl
    · rfl

/-- A check says what is wrong with a value and leaves it to others to name the claim. -/
theorem root_eq_of_check (h : check name v = .error e) : e.root = e := by
  cases name with
  | scope | aud => exact root_eq_of_stringList (map_eq_error_iff.1 h)
  | iss | sub => exact root_eq_of_plainText (map_eq_error_iff.1 h)
  | exp | iat | nbf => exact root_eq_of_timestampValue (map_eq_error_iff.1 h)

theorem Fails.claim?_eq (h : Fails claims name e) : e.claim? = some name := by
  cases h with
  | missing => rfl
  | invalid => rfl

theorem Fails.root_eq (h : Fails claims name e) :
    e.root = .missingClaim name ∨
      ∃ v, value? claims name = some v ∧ check name v = .error e.root := by
  cases h with
  | missing => exact .inl rfl
  | @invalid v cause hv hcheck =>
    have hroot : (ClaimsError.invalidClaim name cause).root = cause := root_eq_of_check hcheck
    rw [hroot]
    exact .inr ⟨v, hv, hcheck⟩

/-! ## Chains of checks -/

/-- The first of the claims that fails, with its fault. -/
def FirstFault (claims : Json.Members) (names : List ClaimName) (e : ClaimsError) : Prop :=
  ∃ before name after, names = before ++ name :: after ∧
    (∀ earlier ∈ before, Passes claims earlier) ∧ Fails claims name e

theorem firstFault_cons_iff :
    FirstFault claims (name :: names) e ↔
      Fails claims name e ∨ Passes claims name ∧ FirstFault claims names e := by
  constructor
  · rintro ⟨before, failing, after, hsplit, hbefore, hfails⟩
    cases before with
    | nil =>
      obtain ⟨rfl, _⟩ := List.cons.inj hsplit
      exact .inl hfails
    | cons first before =>
      obtain ⟨rfl, hrest⟩ := List.cons.inj hsplit
      rcases List.forall_mem_cons.1 hbefore with ⟨hfirst, hbefore⟩
      exact .inr ⟨hfirst, before, failing, after, hrest, hbefore, hfails⟩
  · rintro (hfails | ⟨hpasses, before, failing, after, rfl, hbefore, hfails⟩)
    · exact ⟨[], name, names, rfl, nofun, hfails⟩
    · exact ⟨name :: before, failing, after, rfl, List.forall_mem_cons.2 ⟨hpasses, hbefore⟩, hfails⟩

/-- A computation succeeds when all of the claims pass, and else reports the first fault. -/
structure ChecksInOrder (claims : Json.Members) (names : List ClaimName)
    (x : Except ClaimsError α) : Prop where
  ok_iff : (∃ a, x = .ok a) ↔ ∀ name ∈ names, Passes claims name
  error_iff : ∀ e, x = .error e ↔ FirstFault claims names e

theorem ChecksInOrder.ok (a : α) : ChecksInOrder claims [] (.ok a) where
  ok_iff := by simp
  error_iff e := by simp [FirstFault]

theorem ChecksInOrder.bind {x : Except ClaimsError α} {f : α → Except ClaimsError β}
    (hx : ChecksInOrder claims [name] x) (hf : ∀ a, ChecksInOrder claims names (f a)) :
    ChecksInOrder claims (name :: names) (x >>= f) := by
  have hpasses : (∃ a, x = .ok a) ↔ Passes claims name := by
    rw [hx.ok_iff, List.forall_mem_singleton]
  have hfails : ∀ e, x = .error e ↔ Fails claims name e := by
    intro e
    rw [hx.error_iff, firstFault_cons_iff]
    simp [FirstFault]
  constructor
  · rw [List.forall_mem_cons, ← hpasses]
    constructor
    · rintro ⟨b, hb⟩
      rcases bind_eq_ok_iff.1 hb with ⟨a, ha, hb⟩
      exact ⟨⟨a, ha⟩, (hf a).ok_iff.1 ⟨b, hb⟩⟩
    · rintro ⟨⟨a, ha⟩, hnames⟩
      rcases (hf a).ok_iff.2 hnames with ⟨b, hb⟩
      exact ⟨b, bind_eq_ok_iff.2 ⟨a, ha, hb⟩⟩
  · intro e
    rw [bind_eq_error_iff, firstFault_cons_iff, hfails, ← hpasses]
    -- Past the first claim, a fault of the rest counts only if the first passes.
    refine or_congr_right ?_
    constructor
    · rintro ⟨a, ha, he⟩
      exact ⟨⟨a, ha⟩, ((hf a).error_iff e).1 he⟩
    · rintro ⟨⟨a, ha⟩, he⟩
      exact ⟨a, ha, ((hf a).error_iff e).2 he⟩

/-- Reading a claim checks it, when the reader is the one that its check goes by. -/
theorem checksInOrder_read (claims : Json.Members) (name : ClaimName)
    (read : Json → Except ClaimsError α) (hread : ∀ v, check name v = (read v).map fun _ => ()) :
    ChecksInOrder claims [name]
      (present name (value? claims name) >>= fun v => about name (read v)) := by
  constructor
  · simp only [bind_eq_ok_iff, present_eq_ok_iff, about_eq_ok_iff, List.forall_mem_singleton]
    constructor
    · rintro ⟨a, v, hv, ha⟩
      exact ⟨v, hv, by rw [hread, ha]; rfl⟩
    · rintro ⟨v, hv, hcheck⟩
      rw [hread, map_eq_ok_iff] at hcheck
      rcases hcheck with ⟨a, ha, _⟩
      exact ⟨a, v, hv, ha⟩
  -- The only claim in the list is at fault; there is none behind it.
  · intro e
    rw [firstFault_cons_iff]
    simp only [bind_eq_error_iff, present_eq_error_iff, present_eq_ok_iff, about_eq_error_iff]
    constructor
    · rintro (⟨hnone, rfl⟩ | ⟨v, hv, cause, hcause, rfl⟩)
      · exact .inl (.missing hnone)
      · refine .inl (.invalid hv ?_)
        rw [hread, hcause]
        rfl
    · rintro (hfails | ⟨_, _, _, _, hsplit, _⟩)
      · cases hfails with
        | missing hnone => exact .inl ⟨hnone, rfl⟩
        | @invalid v cause hv hcheck =>
          rw [hread] at hcheck
          exact .inr ⟨v, hv, cause, map_eq_error_iff.1 hcheck, rfl⟩
      · simp at hsplit

end Claims

namespace Payload

open Claims (ChecksInOrder FirstFault Fails Passes check checksInOrder_read value?)

theorem ofClaims_checksInOrder (claims : Json.Members) :
    ChecksInOrder claims ClaimName.inOrder (ofClaims claims) := by
  unfold ofClaims
  refine .bind (checksInOrder_read claims .scope Claims.stringList fun _ => rfl) fun scope => ?_
  refine .bind (checksInOrder_read claims .aud Claims.stringList fun _ => rfl) fun aud => ?_
  refine .bind (checksInOrder_read claims .iss Claims.plainText fun _ => rfl) fun iss => ?_
  refine .bind (checksInOrder_read claims .exp Claims.timestampValue fun _ => rfl) fun exp => ?_
  refine .bind (checksInOrder_read claims .iat Claims.timestampValue fun _ => rfl) fun iat => ?_
  refine .bind (checksInOrder_read claims .nbf Claims.timestampValue fun _ => rfl) fun nbf => ?_
  refine .bind (checksInOrder_read claims .sub Claims.plainText fun _ => rfl) fun sub => ?_
  exact .ok _

/-- Nothing but the values that stand for the claims is looked at. -/
theorem ofClaims_congr {claims other : Json.Members}
    (h : ∀ name, value? other name = value? claims name) : ofClaims other = ofClaims claims := by
  have hscope : Claims.scopeValue? other = Claims.scopeValue? claims := h .scope
  have hkey : ∀ name : ClaimName, name ≠ .scope → other.get? name.key = claims.get? name.key := by
    intro name hname
    rw [← Claims.value?_of_ne_scope hname, ← Claims.value?_of_ne_scope hname, h name]
  simp only [ofClaims, Claims.claim, hscope, hkey .aud nofun, hkey .iss nofun, hkey .exp nofun,
    hkey .iat nofun, hkey .nbf nofun, hkey .sub nofun]

/-- A claims object is read exactly when every claim passes its check, and else the error is the
fault of the first claim that does not. It names this claim, and under the name there is nothing but
the claim's own error. Objects with the same values for the claims read alike. -/
theorem first_fault_reported (claims : Json.Members) :
    (∀ v, value? claims .scope = some v ↔
      claims.get? "scope" = some v ∨ claims.get? "scope" = none ∧ claims.get? "scp" = some v) ∧
    ((∃ p, ofClaims claims = .ok p) ↔ ∀ name, Passes claims name) ∧
    (∀ e, ofClaims claims = .error e ↔ FirstFault claims ClaimName.inOrder e) ∧
    (∀ name e, Fails claims name e → e.claim? = some name ∧
      (e.root = .missingClaim name ∨
        ∃ v, value? claims name = some v ∧ check name v = .error e.root) ∧
      ∀ other cause, e.root ≠ .invalidClaim other cause) ∧
    (∀ other : Json.Members, (∀ name, value? other name = value? claims name) →
      ofClaims other = ofClaims claims) := by
  have hinOrder := ofClaims_checksInOrder claims
  refine ⟨?_, ?_, hinOrder.error_iff, ?_, ?_⟩
  · intro v
    exact Claims.value?_scope_eq_some_iff
  · rw [hinOrder.ok_iff]
    exact ⟨fun h name => h name name.mem_inOrder, fun h name _ => h name⟩
  · intro name e h
    exact ⟨h.claim?_eq, h.root_eq, e.root_ne_invalidClaim⟩
  · intro other h
    exact ofClaims_congr h

end Payload

namespace Sample

/-- A scope that is present and no list, beside an alias that is one, and a claim that is absent. -/
def faultyClaims : Json.Members :=
  [("scp", .str "r"), ("aud", .str "A"), ("exp", .str "1"), ("scope", .null), ("iss", .str "i")]

end Sample

/-- The scope is the first claim that fails: its alias does not replace it, and the claims that are
absent come later. The order of the members does not count. -/
theorem Payload.sample_first_fault :
    Payload.ofClaims Sample.faultyClaims = .error (.invalidClaim .scope .expectedStringOrList) ∧
      Payload.ofClaims Sample.faultyClaims.reverse =
        .error (.invalidClaim .scope .expectedStringOrList) := by
  rcases Payload.first_fault_reported Sample.faultyClaims with ⟨_, _, hfault, _, hcongr⟩
  have hsame : ∀ name, Claims.value? Sample.faultyClaims.reverse name =
      Claims.value? Sample.faultyClaims name := by
    intro name
    cases name with
    | _ => rfl
  have herror := (hfault (.invalidClaim .scope .expectedStringOrList)).2
    ⟨[], .scope, _, rfl, nofun, .invalid rfl rfl⟩
  exact ⟨herror, (hcongr _ hsame).trans herror⟩

end BearerAuth
