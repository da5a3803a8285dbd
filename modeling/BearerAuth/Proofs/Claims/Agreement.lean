import BearerAuth.Claims.Draft
import BearerAuth.Proofs.Claims.Fault
import Mathlib.Data.List.Induction
import Mathlib.Tactic.Choose

/-!
# Drafts and claims objects agree

A claims object can be spelled by the fields of a draft when its texts are strings and its timestamps
have a form: the last field for each claim then carries the value of the claim, and a claim that is
absent has no field. Whatever other fields come before and in whatever order, the draft is completed
to the payload that the claims object is read as, or fails with the same error.
-/

namespace BearerAuth

variable {claims : Json.Members} {fields : List PayloadField}

/-! ## Fields -/

namespace PayloadField

def claim : PayloadField → ClaimName
  | scope _ => .scope
  | aud _ => .aud
  | iss _ => .iss
  | exp _ => .exp
  | iat _ => .iat
  | nbf _ => .nbf
  | sub _ => .sub

/-- A field carries the value of its claim. A timestamp is carried in the form that the value has. -/
inductive Carries : PayloadField → Json → Prop
  | scope (v : Json) : Carries (.scope v) v
  | aud (v : Json) : Carries (.aud v) v
  | iss (s : String) : Carries (.iss s) (.str s)
  | exp {t : TimestampInput} {v : Json} (h : Claims.timestampInput v = .ok t) : Carries (.exp t) v
  | iat {t : TimestampInput} {v : Json} (h : Claims.timestampInput v = .ok t) : Carries (.iat t) v
  | nbf {t : TimestampInput} {v : Json} (h : Claims.timestampInput v = .ok t) : Carries (.nbf t) v
  | sub (s : String) : Carries (.sub s) (.str s)

end PayloadField

/-! ## The fields of a draft -/

namespace PayloadDraft

/-- The field that has been given for a claim. -/
def get? (d : PayloadDraft) : ClaimName → Option PayloadField
  | .scope => d.scope.map .scope
  | .aud => d.aud.map .aud
  | .iss => d.iss.map .iss
  | .exp => d.exp.map .exp
  | .iat => d.iat.map .iat
  | .nbf => d.nbf.map .nbf
  | .sub => d.sub.map .sub

def lastFor? (fields : List PayloadField) (name : ClaimName) : Option PayloadField :=
  (fields.filter (·.claim = name)).getLast?

theorem get?_empty (name : ClaimName) : empty.get? name = none := by
  cases name with
  | _ => rfl

theorem get?_set (d : PayloadDraft) (f : PayloadField) (name : ClaimName) :
    (d.set f).get? name = if f.claim = name then some f else d.get? name := by
  cases f with
  | _ =>
    cases name with
    | _ => rfl

theorem lastFor?_append_singleton (fields : List PayloadField) (f : PayloadField)
    (name : ClaimName) :
    lastFor? (fields ++ [f]) name = if f.claim = name then some f else lastFor? fields name := by
  unfold lastFor?
  by_cases h : f.claim = name
  · simp [List.filter_append, h]
  · simp [List.filter_append, h]

/-- A draft holds the last field that has been given for each claim. -/
theorem get?_ofFields (fields : List PayloadField) (name : ClaimName) :
    (ofFields fields).get? name = lastFor? fields name := by
  induction fields using List.reverseRecOn with
  | nil => exact get?_empty name
  | append_singleton fields f ih =>
    have hset : ofFields (fields ++ [f]) = (ofFields fields).set f := by
      simp only [ofFields, List.foldl_append, List.foldl_cons, List.foldl_nil]
    rw [hset, get?_set, lastFor?_append_singleton, ih]

/-! ## Completing and reading -/

/-- The draft holds the value of each claim that is there, and nothing for the others. -/
def Holds (d : PayloadDraft) (claims : Json.Members) : Prop :=
  ∀ name, Option.Rel PayloadField.Carries (d.get? name) (Claims.value? claims name)

section Holds

variable {α β : Type} {d : PayloadDraft}

/-- A field of a draft and the value that it carries are checked alike, if the checks agree on
them. -/
theorem present_bind_eq {c : α → PayloadField} {x : Option α} {o : Option Json}
    {f : α → Except ClaimsError β} {g : Json → Except ClaimsError β}
    (h : Option.Rel PayloadField.Carries (x.map c) o)
    (hchecks : ∀ a v, (c a).Carries v → f a = g v) :
    (Claims.present name x >>= f) = (Claims.present name o >>= g) := by
  cases x with
  | none =>
    cases h
    rfl
  | some a =>
    cases h with
    | some hcarries => exact hchecks a _ hcarries

theorem list_eq (name : ClaimName) {c : Json → PayloadField} {x o : Option Json}
    (h : Option.Rel PayloadField.Carries (x.map c) o)
    (hsame : ∀ w v, (c w).Carries v → w = v) :
    list name x = Claims.present name o >>= fun v => Claims.about name (Claims.stringList v) := by
  refine present_bind_eq h fun w v hcarries => ?_
  rw [hsame w v hcarries]

theorem text_eq (name : ClaimName) {c : String → PayloadField} {x : Option String}
    (h : Option.Rel PayloadField.Carries (x.map c) (claims.get? name.key))
    (htext : ∀ s v, (c s).Carries v → v = .str s) :
    Claims.present name x = Claims.claim Claims.plainText claims name := by
  rw [← bind_pure (Claims.present name x)]
  refine present_bind_eq h fun s v hcarries => ?_
  rw [htext s v hcarries]
  rfl

/-- The form of a timestamp has been told before it is given to a draft. -/
theorem instant_eq (name : ClaimName) {c : TimestampInput → PayloadField} {x : Option TimestampInput}
    (h : Option.Rel PayloadField.Carries (x.map c) (claims.get? name.key))
    (hform : ∀ t v, (c t).Carries v → Claims.timestampInput v = .ok t) :
    instant name x = Claims.claim Claims.timestampValue claims name := by
  refine present_bind_eq h fun t v hcarries => ?_
  rw [Claims.timestampValue, hform t v hcarries]
  rfl

theorem Holds.build_eq (h : d.Holds claims) : d.build = Payload.ofClaims claims := by
  have hscope := list_eq .scope (h .scope) fun _ _ hcarries => by cases hcarries; rfl
  have haud := list_eq .aud (h .aud) fun _ _ hcarries => by cases hcarries; rfl
  have hiss := text_eq .iss (h .iss) fun _ _ hcarries => by cases hcarries; rfl
  have hexp := instant_eq .exp (h .exp) fun _ _ hcarries => by cases hcarries; assumption
  have hiat := instant_eq .iat (h .iat) fun _ _ hcarries => by cases hcarries; assumption
  have hnbf := instant_eq .nbf (h .nbf) fun _ _ hcarries => by cases hcarries; assumption
  have hsub := text_eq .sub (h .sub) fun _ _ hcarries => by cases hcarries; rfl
  rw [build, Payload.ofClaims, hscope, haud, hiss, hexp, hiat, hnbf, hsub]
  rfl

end Holds

/-! ## Spelling a claims object -/

/-- The last field for each claim carries its value, and a claim that is absent has no field. -/
def Spells (fields : List PayloadField) (claims : Json.Members) : Prop :=
  ∀ name, Option.Rel PayloadField.Carries (lastFor? fields name) (Claims.value? claims name)

/-- The claims that are there have values that fields can carry. -/
structure IsSpellable (claims : Json.Members) : Prop where
  iss : ∀ v, claims.get? "iss" = some v → ∃ s, v = .str s
  exp : ∀ v, claims.get? "exp" = some v → ∃ t, Claims.timestampInput v = .ok t
  iat : ∀ v, claims.get? "iat" = some v → ∃ t, Claims.timestampInput v = .ok t
  nbf : ∀ v, claims.get? "nbf" = some v → ∃ t, Claims.timestampInput v = .ok t
  sub : ∀ v, claims.get? "sub" = some v → ∃ s, v = .str s

theorem Spells.holds (h : Spells fields claims) : (ofFields fields).Holds claims := by
  intro name
  rw [get?_ofFields]
  exact h name

/-- These are the values that some field for the claim carries. -/
theorem isSpellable_iff_exists_carries :
    IsSpellable claims ↔ ∀ name v, Claims.value? claims name = some v →
      ∃ f : PayloadField, f.claim = name ∧ f.Carries v := by
  constructor
  -- Every claim has its own setter; only the argument has to be found.
  · intro h name v hv
    cases name with
    | scope => exact ⟨.scope v, rfl, .scope v⟩
    | aud => exact ⟨.aud v, rfl, .aud v⟩
    | iss =>
      rcases h.iss v hv with ⟨s, rfl⟩
      exact ⟨.iss s, rfl, .iss s⟩
    | exp =>
      rcases h.exp v hv with ⟨t, ht⟩
      exact ⟨.exp t, rfl, .exp ht⟩
    | iat =>
      rcases h.iat v hv with ⟨t, ht⟩
      exact ⟨.iat t, rfl, .iat ht⟩
    | nbf =>
      rcases h.nbf v hv with ⟨t, ht⟩
      exact ⟨.nbf t, rfl, .nbf ht⟩
    | sub =>
      rcases h.sub v hv with ⟨s, rfl⟩
      exact ⟨.sub s, rfl, .sub s⟩
  -- A setter of another claim cannot be the one that is asked for.
  · intro h
    constructor
    · intro v hv
      rcases h .iss v hv with ⟨f, hclaim, hcarries⟩
      cases hcarries with
      | iss s => exact ⟨s, rfl⟩
      | _ => cases hclaim
    · intro v hv
      rcases h .exp v hv with ⟨f, hclaim, hcarries⟩
      cases hcarries with
      | exp ht => exact ⟨_, ht⟩
      | _ => cases hclaim
    · intro v hv
      rcases h .iat v hv with ⟨f, hclaim, hcarries⟩
      cases hcarries with
      | iat ht => exact ⟨_, ht⟩
      | _ => cases hclaim
    · intro v hv
      rcases h .nbf v hv with ⟨f, hclaim, hcarries⟩
      cases hcarries with
      | nbf ht => exact ⟨_, ht⟩
      | _ => cases hclaim
    · intro v hv
      rcases h .sub v hv with ⟨f, hclaim, hcarries⟩
      cases hcarries with
      | sub s => exact ⟨s, rfl⟩
      | _ => cases hclaim

/-- One field for each claim, if it has one, is the last for this claim. -/
theorem lastFor?_filterMap {field : ClaimName → Option PayloadField}
    (hclaim : ∀ name, ∀ f ∈ field name, f.claim = name) (name : ClaimName) :
    lastFor? (ClaimName.inOrder.filterMap field) name = field name := by
  have hfilter : (ClaimName.inOrder.filterMap field).filter (·.claim = name) =
      (ClaimName.inOrder.filter (· = name)).filterMap field := by
    rw [List.filter_filterMap, List.filterMap_filter]
    refine List.filterMap_congr fun other _ => ?_
    cases hother : field other with
    | none => simp
    | some f => simp [Option.filter, hclaim other f hother]
  have hone : ClaimName.inOrder.filter (· = name) = [name] := by
    cases name with
    | _ => rfl
  rw [lastFor?, hfilter, hone]
  cases hname : field name with
  | none => simp [hname]
  | some f => simp [hname]

theorem isSpellable_iff : IsSpellable claims ↔ ∃ fields, Spells fields claims := by
  rw [isSpellable_iff_exists_carries]
  constructor
  · intro h
    -- One setter for each claim that is there makes a sequence that spells the claims.
    have hexists : ∀ name, ∃ field : Option PayloadField, (∀ f ∈ field, f.claim = name) ∧
        Option.Rel PayloadField.Carries field (Claims.value? claims name) := by
      intro name
      cases hv : Claims.value? claims name with
      | none => exact ⟨none, nofun, .none⟩
      | some v =>
        rcases h name v hv with ⟨f, hclaim, hcarries⟩
        exact ⟨some f, fun g hg => Option.some.inj hg ▸ hclaim, .some hcarries⟩
    choose field hclaim hcarries using hexists
    refine ⟨ClaimName.inOrder.filterMap field, ?_⟩
    intro name
    rw [lastFor?_filterMap hclaim]
    exact hcarries name
  · rintro ⟨fields, h⟩ name v hv
    have hrel := h name
    rw [hv] at hrel
    cases hlast : lastFor? fields name with
    | none =>
      rw [hlast] at hrel
      cases hrel
    | some f =>
      rw [hlast] at hrel
      have hmem := List.mem_of_getLast? hlast
      cases hrel with
      | some hcarries => exact ⟨f, by simpa using (List.mem_filter.1 hmem).2, hcarries⟩

/-- A claims object with texts that are strings and timestamps in a form can be spelled field by
field, and however this is done, the completed draft is what reading the claims object gives: the
same payload or the same error. -/
theorem built_as_read {claims : Json.Members} (h : IsSpellable claims) :
    (∃ fields, Spells fields claims) ∧
      ∀ fields, Spells fields claims → (ofFields fields).build = Payload.ofClaims claims :=
  ⟨isSpellable_iff.1 h, fun _ hspells => hspells.holds.build_eq⟩

end PayloadDraft

namespace Sample

/-- The issuer is absent, the subject is given twice, and the alias gives the scope. -/
def spelledClaims : Json.Members :=
  [("sub", .str "s"), ("exp", .str "+60"), ("scp", .str "R W"), ("nbf", .ofInt (-1)),
    ("aud", .null)]

def spellingFields : List PayloadField :=
  [.sub "t", .aud .null, .nbf (.seconds (-1)), .scope (.bool true), .sub "s", .exp (.text "+60"),
    .scope (.str "R W")]

end Sample

/-- Draft and claims object fail for the audience, which comes before the claims that are absent. -/
theorem PayloadDraft.sample_built_as_read :
    (PayloadDraft.ofFields Sample.spellingFields).build =
        .error (.invalidClaim .aud .expectedStringOrList) ∧
      Payload.ofClaims Sample.spelledClaims =
        .error (.invalidClaim .aud .expectedStringOrList) := by
  have hspellable : PayloadDraft.IsSpellable Sample.spelledClaims := by
    refine ⟨?_, ?_, ?_, ?_, ?_⟩
    · rintro _ ⟨⟩
    · rintro _ ⟨⟩
      exact ⟨.text "+60", rfl⟩
    · rintro _ ⟨⟩
    · rintro _ ⟨⟩
      exact ⟨.seconds (-1), rfl⟩
    · rintro _ ⟨⟩
      exact ⟨"s", rfl⟩
  have hspells : PayloadDraft.Spells Sample.spellingFields Sample.spelledClaims := by
    intro name
    cases name with
    | scope => exact .some (.scope _)
    | aud => exact .some (.aud _)
    | iss => exact .none
    | exp => exact .some (.exp rfl)
    | iat => exact .none
    | nbf => exact .some (.nbf rfl)
    | sub => exact .some (.sub _)
  have hsame := (PayloadDraft.built_as_read hspellable).2 _ hspells
  have hread : Payload.ofClaims Sample.spelledClaims =
      .error (.invalidClaim .aud .expectedStringOrList) := by
    decide +kernel
  exact ⟨hsame.trans hread, hread⟩

end BearerAuth
