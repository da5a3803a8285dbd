import BearerAuth.Proofs.Policy.Normal
import BearerAuth.Proofs.Policy.Provenance
import BearerAuth.Proofs.Settings.Place

/-!
# A policy that exists is valid

Whatever a policy is made from, its algorithms are asymmetric, its restricted lists are in normal
form, and its audience is the one that the source names. There is no other way to a policy than the
check of a draft, and the audience of that draft is what the source says in the place of the
audience.
-/

namespace BearerAuth

/-! ## What the check establishes -/

theorem exists_of_checkOptional {α β : Type} {check : α → Except PolicyError β} {o : Option α}
    {r : Option β} (h : checkOptional check o = .ok r) {b : β} (hb : b ∈ r) :
    ∃ a ∈ o, check a = .ok b := by
  cases o with
  | none =>
    obtain rfl : none = r := Except.ok.inj h
    cases hb
  | some a =>
    rcases map_eq_ok_iff.1 h with ⟨c, hc, rfl⟩
    obtain rfl : c = b := Option.some.inj hb
    exact ⟨a, rfl, hc⟩

namespace Policy

variable {p : Policy}

/-- What a policy that exists can be relied on for. -/
structure IsValid (p : Policy) : Prop where
  algorithms : ∀ a ∈ p.algorithms, a ∈ Algorithm.defaults
  audiences : ∀ items ∈ p.audiences, ListInput.IsNormal items
  issuers : ∀ items ∈ p.issuers, ListInput.IsNormal items

theorem isValid_of_validate {d : PolicyDraft} (h : d.validate = .ok p) : p.IsValid := by
  rcases PolicyDraft.validate_eq_ok_iff.1 h with ⟨_, _, haudiences, hissuers, _⟩
  refine ⟨?_, ?_, ?_⟩
  · intro a ha
    exact Algorithm.mem_defaults_iff.2 (PolicyDraft.isAsymmetric_of_validate h ha)
  · intro items hitems
    rcases exists_of_checkOptional haudiences hitems with ⟨_, _, hchecked⟩
    exact ListInput.isNormal_of_restricted hchecked
  · intro items hitems
    rcases exists_of_checkOptional hissuers hitems with ⟨_, _, hchecked⟩
    exact ListInput.isNormal_of_restricted hchecked

theorem Obtainable.isValid (h : p.Obtainable) : p.IsValid := by
  rcases h.exists_validate with ⟨d, hd⟩
  exact isValid_of_validate hd

theorem IsValid.allows_eq_false (h : p.IsValid) {a : Algorithm} (ha : a.isAsymmetric = false) :
    p.allows a = false := by
  have hnot : a ∉ p.algorithms := by
    intro hmem
    have hasymmetric := Algorithm.mem_defaults_iff.1 (h.algorithms a hmem)
    rw [ha] at hasymmetric
    cases hasymmetric
  simpa [allows] using hnot

end Policy

/-! ## What is said about the audience -/

theorem eq_of_nullable? {α : Type} {read : Json → Option α} {v : Json} {a : Option α}
    (hnull : read .null = none) (h : nullable? read v = some a) : read v = a := by
  cases v with
  | null => exact hnull.trans (Option.some.inj h)
  | _ =>
    rcases Option.map_eq_some_iff.1 h with ⟨b, hb, rfl⟩
    exact hb

theorem nullable?_of_eq_some {α : Type} {read : Json → Option α} {v : Json} {a : α}
    (hnull : read .null = none) (h : read v = some a) : nullable? read v = some (some a) := by
  cases v with
  | null => simp [hnull] at h
  | _ => simp [nullable?, h]

theorem Setting.eq_of_unlessNil? {α : Type} {read : Setting → Option α} {v : Setting}
    {a : Option α} (hnil : read .nil = none) (h : unlessNil? read v = some a) : read v = a := by
  cases v with
  | nil => exact hnil.trans (Option.some.inj h)
  | _ =>
    rcases Option.map_eq_some_iff.1 h with ⟨b, hb, rfl⟩
    exact hb

/-- The members that a JSON value has for a draft; the items of an array are under the keys of the
fields in their order. -/
def Json.draftMembers : Json → Members
  | .obj members => members
  | .arr items => (DraftField.all.map DraftField.key).zip items
  | _ => []

/-- The audience that a JSON value names. -/
def Json.audience? (v : Json) : Option String :=
  (v.draftMembers.get? DraftField.audience.key).bind string?

/-- The audience that settings name. -/
def Setting.Entries.audience? (entries : Setting.Entries) : Option String :=
  (entries.get? DraftField.audience.key).bind asText?

theorem PolicyDraft.audience_of_ofFields (audience : String) (fields : List PolicyField) :
    (ofFields audience fields).audience = some audience := by
  have hkeep : ∀ (fields : List PolicyField) (d : PolicyDraft),
      (fields.foldl set d).audience = d.audience := by
    intro fields
    induction fields with
    | nil => exact fun d => rfl
    | cons field fields ih =>
      intro d
      rw [List.foldl_cons, ih]
      cases field with
      | _ => rfl
  exact hkeep fields _

theorem PolicyText.read_of_draft? {v : Json} {d : PolicyDraft} (h : draft? v = some d)
    (f : DraftField) :
    (v.draftMembers.get? f.key).elim (some none) (PolicyDraft.readJson f) = some (d.get f) := by
  cases v with
  | obj members => exact (PolicyDraft.ofJson?_obj_eq_some_iff.1 h).2.2 f
  | arr items =>
    have hkeys : (((DraftField.all.map DraftField.key).zip items).map Prod.fst).Nodup :=
      (keys_zip_sublist _ items).nodup (by decide)
    rw [draft?, PolicyDraft.fillInOrder?_eq_fillWith, PolicyDraft.fillWith_eq_some_iff hkeys] at h
    simpa only [PolicyDraft.get_empty, Json.draftMembers, Json.Members.get?] using h.2 f
  | _ => cases h

theorem PolicyText.draft?_of_ofJson? {v : Json} {d : PolicyDraft}
    (h : PolicyDraft.ofJson? v = some d) : draft? v = some d := by
  cases v with
  | arr items =>
    rw [PolicyDraft.ofJson?] at h
    split at h
    · exact h
    · cases h
  | _ => exact h

theorem PolicyText.audience_of_draft? {v : Json} {d : PolicyDraft} (h : draft? v = some d) :
    v.audience? = d.audience := by
  have hread := read_of_draft? h .audience
  unfold Json.audience?
  cases hmember : v.draftMembers.get? DraftField.audience.key with
  | none =>
    rw [hmember] at hread
    exact Option.some.inj hread
  | some w =>
    rw [hmember] at hread
    exact eq_of_nullable? rfl hread

theorem PolicyDraft.audience_of_ofSettings? {entries : Setting.Entries} {d : PolicyDraft}
    (hkeys : (entries.map Prod.fst).Nodup) (h : ofSettings? entries = some d) :
    entries.audience? = d.audience := by
  have hread := ((ofSettings?_eq_some_iff hkeys).1 h).2 .audience
  unfold Setting.Entries.audience?
  cases hentry : entries.get? DraftField.audience.key with
  | none =>
    rw [hentry] at hread
    exact Option.some.inj hread
  | some w =>
    rw [hentry] at hread
    exact Setting.eq_of_unlessNil? rfl hread

/-! ## Every source -/

/-- What a policy can be made from. -/
inductive PolicySource where
  | built (audience : String) (fields : List PolicyField)
  | draft (d : PolicyDraft)
  | text (s : String)
  | json (v : Json)
  | loaded (file : PolicyFile) (stem : String) (bindings : List (String × String))

namespace PolicySource

/-- The policy that is made from a source, if there is one. -/
def policy? : PolicySource → Option Policy
  | .built audience fields => (PolicyDraft.ofFields audience fields).validate.toOption
  | .draft d => d.validate.toOption
  | .text s => (Policy.ofText s).toOption
  | .json v => (Policy.ofJson v).toOption
  | .loaded file stem bindings => (file.load stem bindings).toOption

/-- The audience that a source names. -/
def audience? : PolicySource → Option String
  | .built audience _ => some audience
  | .draft d => d.audience
  | .text s => (Json.parse? s.toList).bind Json.audience?
  | .json v => v.audience?
  | .loaded file stem bindings =>
    file.table.toOption.bind fun entries =>
      (PolicyFile.merged entries (Environment.settings stem bindings)).audience?

end PolicySource

variable {source : PolicySource} {p : Policy}

theorem Policy.obtainable_iff :
    p.Obtainable ↔ ∃ source : PolicySource, source.policy? = some p := by
  constructor
  · intro h
    cases h with
    | built audience fields h => exact ⟨.built audience fields, toOption_eq_some_iff.2 h⟩
    | checked d h => exact ⟨.draft d, toOption_eq_some_iff.2 h⟩
    | text s h => exact ⟨.text s, toOption_eq_some_iff.2 h⟩
    | json v h => exact ⟨.json v, toOption_eq_some_iff.2 h⟩
    | file file stem bindings h => exact ⟨.loaded file stem bindings, toOption_eq_some_iff.2 h⟩
  · rintro ⟨source, h⟩
    cases source with
    | built audience fields => exact .built audience fields (toOption_eq_some_iff.1 h)
    | draft d => exact .checked d (toOption_eq_some_iff.1 h)
    | text s => exact .text s (toOption_eq_some_iff.1 h)
    | json v => exact .json v (toOption_eq_some_iff.1 h)
    | loaded file stem bindings => exact .file file stem bindings (toOption_eq_some_iff.1 h)

namespace PolicySource

theorem audience_eq (h : source.policy? = some p) : source.audience? = some p.audience := by
  have hchecked : ∀ {d : PolicyDraft}, d.validate = .ok p → d.audience = some p.audience :=
    fun hd => (PolicyDraft.validate_eq_ok_iff.1 hd).1
  cases source with
  | built audience fields =>
    rw [← hchecked (toOption_eq_some_iff.1 h), PolicyDraft.audience_of_ofFields, audience?]
  | draft d => exact hchecked (toOption_eq_some_iff.1 h)
  | text s =>
    rcases PolicyText.exists_of_read (toOption_eq_some_iff.1 h) with ⟨v, d, hparse, hdraft, hd⟩
    rw [← hchecked hd, ← PolicyText.audience_of_draft? hdraft, audience?, hparse, Option.bind_some]
  | json v =>
    rcases Policy.exists_of_ofJson (toOption_eq_some_iff.1 h) with ⟨d, hdraft, hd⟩
    rw [← hchecked hd, ← PolicyText.audience_of_draft? (PolicyText.draft?_of_ofJson? hdraft),
      audience?]
  | loaded file stem bindings =>
    rcases PolicyFile.load_eq_ok_iff.1 (toOption_eq_some_iff.1 h) with
      ⟨entries, d, htable, hdraft, hd⟩
    rw [← hchecked hd, audience?, toOption_eq_some_iff.2 htable, Option.bind_some]
    refine PolicyDraft.audience_of_ofSettings? ?_ hdraft
    exact Setting.nodup_keys_overlay (Setting.nodup_keys_overlay List.nodup_nil)

/-- Whatever a policy is made from, it is valid, it allows no symmetric algorithm, and its audience
has been supplied. -/
theorem yields_valid_policies (source : PolicySource) (p : Policy) (h : source.policy? = some p) :
    p.IsValid ∧ (∀ a ∈ [Algorithm.HS256, .HS384, .HS512], p.allows a = false) ∧
      source.audience? = some p.audience := by
  have hvalid : p.IsValid := (Policy.obtainable_iff.2 ⟨source, h⟩).isValid
  refine ⟨hvalid, ?_, audience_eq h⟩
  intro a ha
  have hsymmetric : ∀ a ∈ [Algorithm.HS256, .HS384, .HS512], a.isAsymmetric = false := by decide
  exact hvalid.allows_eq_false (hsymmetric a ha)

/-- A text that gives its lists in both forms, with blanks and repetitions. -/
theorem sample_text_valid :
    let source := PolicySource.text ("\x7b\"audience\":\" a \"," ++
      "\"authorized_algorithms\":\"EdDSA, RS256\"," ++
      "\"authorized_audiences\":\" x,, y ,x\"," ++
      "\"authorized_issuers\":[\"i,j\",\"\\u2003i,j\"]\x7d")
    let p : Policy := ⟨" a ", [.EdDSA, .RS256], some ["x", "y"], some ["i,j"], 0⟩
    source.policy? = some p ∧ p.IsValid ∧ source.audience? = some " a " := by
  intro source p
  have hmade : source.policy? = some p := by decide +kernel
  rcases yields_valid_policies source p hmade with ⟨hvalid, _, haudience⟩
  exact ⟨hmade, hvalid, haudience⟩

end PolicySource

end BearerAuth
