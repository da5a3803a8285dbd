import BearerAuth.Proofs.Policy.Environment
import BearerAuth.Proofs.Policy.Serialization

/-!
# Building, reading and loading agree

A policy can be built in steps, where the last step for a field counts, or read from an object that
holds what these steps have given, as a value, as a text, or from a file. All of this comes to the
same draft, so it gives the same policy, or it is refused for the same reason. Files alone have a
bound: an integer beyond 63 bits is no integer in them.
-/

namespace BearerAuth

/-! ## The last step for a field -/

namespace PolicyField

/-- The field that a step gives a value. -/
def target : PolicyField → DraftField
  | algorithms _ => .algorithms
  | audiences _ => .audiences
  | issuers _ => .issuers
  | leeway _ => .leeway

/-- The value that a step gives, in JSON. -/
def toJson : PolicyField → Json
  | algorithms input | audiences input | issuers input => input.toJson
  | leeway seconds => Json.ofInt seconds.toNat

/-- The steps that no later step for the same field follows. -/
def lastOnes : List PolicyField → List PolicyField
  | [] => []
  | step :: rest =>
    if rest.any (·.target = step.target) then lastOnes rest else step :: lastOnes rest

/-- The members of the object that holds the audience and what the last step for each field has
given. -/
def members (audience : String) (steps : List PolicyField) : Json.Members :=
  (DraftField.audience.key, .str audience) ::
    (lastOnes steps).map fun step => (step.target.key, step.toJson)

variable {step : PolicyField} {steps rest : List PolicyField} {f : DraftField} {v : Json}
  {d : PolicyDraft}

theorem target_ne_audience : step.target ≠ .audience := by
  intro h
  cases step with
  | _ => cases h

theorem lastOnes_cons_of_exists (h : ∃ s ∈ rest, s.target = step.target) :
    lastOnes (step :: rest) = lastOnes rest := by
  rw [lastOnes, if_pos (by simpa using h)]

theorem lastOnes_cons_of_forall (h : ∀ s ∈ rest, s.target ≠ step.target) :
    lastOnes (step :: rest) = step :: lastOnes rest := by
  rw [lastOnes, if_neg (by simpa using h)]

/-- A field that has been touched has a last step, and no other field has one. -/
theorem exists_lastOnes_iff :
    (∃ s ∈ lastOnes steps, s.target = f) ↔ ∃ s ∈ steps, s.target = f := by
  induction steps with
  | nil => rfl
  | cons step rest ih =>
    by_cases h : ∃ s ∈ rest, s.target = step.target
    · rw [lastOnes_cons_of_exists h, ih]
      constructor
      · rintro ⟨s, hs, hf⟩
        exact ⟨s, List.mem_cons_of_mem _ hs, hf⟩
      · rintro ⟨s, hs, hf⟩
        rcases List.mem_cons.1 hs with rfl | hs
        -- A step that is not the last one has its field touched again.
        · rcases h with ⟨s', hs', hsame⟩
          exact ⟨s', hs', hsame.trans hf⟩
        · exact ⟨s, hs, hf⟩
    · have hlast : ∀ s ∈ rest, s.target ≠ step.target := by simpa using h
      rw [lastOnes_cons_of_forall hlast, List.exists_mem_cons_iff, List.exists_mem_cons_iff, ih]

theorem nodup_targets_lastOnes (steps : List PolicyField) :
    ((lastOnes steps).map target).Nodup := by
  induction steps with
  | nil => exact List.nodup_nil
  | cons step rest ih =>
    by_cases h : ∃ s ∈ rest, s.target = step.target
    · rw [lastOnes_cons_of_exists h]
      exact ih
    · have hlast : ∀ s ∈ rest, s.target ≠ step.target := by simpa using h
      rw [lastOnes_cons_of_forall hlast, List.map_cons, List.nodup_cons]
      refine ⟨?_, ih⟩
      intro hmem
      exact h (exists_lastOnes_iff.1 (by simpa using hmem))

theorem nodup_keys_members (audience : String) (steps : List PolicyField) :
    ((members audience steps).map Prod.fst).Nodup := by
  have hkeys : (members audience steps).map Prod.fst =
      (DraftField.audience :: (lastOnes steps).map target).map DraftField.key := by
    simp [members]
  have hnew : DraftField.audience ∉ (lastOnes steps).map target := by
    simpa using fun step _ => target_ne_audience
  rw [hkeys]
  exact (List.nodup_cons.2 ⟨hnew, nodup_targets_lastOnes steps⟩).map fun _ _ => DraftField.key_inj

end PolicyField

namespace PolicyDraft

open PolicyField (lastOnes lastOnes_cons_of_exists lastOnes_cons_of_forall exists_lastOnes_iff)

variable {d : PolicyDraft} {step : PolicyField} {f : DraftField} {v : Json}

theorem get_set_self (d : PolicyDraft) (step : PolicyField) :
    ((d.set step).get step.target).map step.target.toJson = some step.toJson := by
  cases step with
  | _ => rfl

theorem get_set_of_ne (h : step.target ≠ f) : (d.set step).get f = d.get f := by
  cases step with
  | _ =>
    cases f with
    | _ => first | rfl | exact absurd rfl h

/-- After some steps a field holds what its last step has given, or what it held before. -/
theorem get_foldl_set_iff (steps : List PolicyField) :
    ((steps.foldl set d).get f).map f.toJson = some v ↔
      (∃ step ∈ lastOnes steps, step.target = f ∧ step.toJson = v) ∨
      (∀ step ∈ steps, step.target ≠ f) ∧ (d.get f).map f.toJson = some v := by
  induction steps generalizing d with
  | nil => simp [lastOnes]
  | cons step rest ih =>
    rw [List.foldl_cons, ih]
    by_cases hf : step.target = f
    · subst hf
      rw [get_set_self]
      by_cases hlater : ∃ s ∈ rest, s.target = step.target
      · have hnot : ¬∀ s ∈ rest, s.target ≠ step.target := by simpa using hlater
        rw [lastOnes_cons_of_exists hlater]
        simp [hnot]
      -- This is the last step for its field, so nothing in the rest touches it.
      · have hlast : ∀ s ∈ rest, s.target ≠ step.target := by simpa using hlater
        have hnone : ¬∃ s ∈ lastOnes rest, s.target = step.target ∧ s.toJson = v := by
          rintro ⟨s, hs, hsame, _⟩
          exact hlater (exists_lastOnes_iff.1 ⟨s, hs, hsame⟩)
        rw [lastOnes_cons_of_forall hlast, or_iff_right hnone, and_iff_right hlast,
          List.exists_mem_cons_iff, or_iff_left hnone]
        simp
    · rw [get_set_of_ne hf]
      have hsame : (∃ s ∈ lastOnes (step :: rest), s.target = f ∧ s.toJson = v) ↔
          ∃ s ∈ lastOnes rest, s.target = f ∧ s.toJson = v := by
        by_cases hlater : ∃ s ∈ rest, s.target = step.target
        · rw [lastOnes_cons_of_exists hlater]
        · have hlast : ∀ s ∈ rest, s.target ≠ step.target := by simpa using hlater
          simp [lastOnes_cons_of_forall hlast, hf]
      rw [hsame]
      simp [hf]

end PolicyDraft

/-! ## Objects that hold a draft -/

/-- An object holds what a draft holds: a member for each field with a value, and no other. -/
structure Json.Members.Spells (members : Json.Members) (d : PolicyDraft) : Prop where
  nodup : (members.map Prod.fst).Nodup
  mem_iff : ∀ key v, (key, v) ∈ members ↔
    ∃ f : DraftField, f.key = key ∧ (d.get f).map f.toJson = some v

theorem PolicyField.spells_of_perm {members : Json.Members} {audience : String}
    {steps : List PolicyField} (h : members.Perm (PolicyField.members audience steps)) :
    members.Spells (PolicyDraft.ofFields audience steps) := by
  have haudience : ∀ (f : DraftField) (v : Json),
      (({ PolicyDraft.empty with audience := some audience } : PolicyDraft).get f).map f.toJson =
        some v ↔ f = .audience ∧ .str audience = v := by
    intro f v
    cases f with
    | audience => simp [PolicyDraft.get, DraftField.toJson]
    | _ => simp [PolicyDraft.get, PolicyDraft.empty]
  refine ⟨(h.map Prod.fst).nodup_iff.2 (nodup_keys_members audience steps), ?_⟩
  -- A member is that of the audience, which no step touches, or that of the last step of a field.
  intro key v
  rw [h.mem_iff]
  simp only [PolicyDraft.ofFields, PolicyDraft.get_foldl_set_iff, haudience]
  constructor
  · intro hmem
    rcases List.mem_cons.1 hmem with heq | hmem
    · obtain ⟨rfl, rfl⟩ := Prod.mk.inj heq
      exact ⟨.audience, rfl, .inr ⟨fun _ _ => target_ne_audience, rfl, rfl⟩⟩
    · rcases List.mem_map.1 hmem with ⟨step, hstep, heq⟩
      obtain ⟨rfl, rfl⟩ := Prod.mk.inj heq
      exact ⟨step.target, rfl, .inl ⟨step, hstep, rfl, rfl⟩⟩
  · rintro ⟨f, rfl, ⟨step, hstep, rfl, rfl⟩ | ⟨_, rfl, rfl⟩⟩
    · exact List.mem_cons_of_mem _ (List.mem_map.2 ⟨step, hstep, rfl⟩)
    · exact List.mem_cons_self

theorem DraftField.merged_toJson (f : DraftField) (a : f.Value) :
    (f.toJson a).merged = f.toJson a := by
  have hlist : ∀ input : ListInput, input.toJson.merged = input.toJson := by
    intro input
    cases input with
    | text s => rfl
    | list items => exact Json.merged_ofStrings items
  cases f with
  | audience => rfl
  | algorithms | audiences | issuers => exact hlist a
  | leeway => rfl

namespace Json.Members.Spells

variable {members : Json.Members} {d : PolicyDraft}

theorem get?_key (h : members.Spells d) (f : DraftField) :
    members.get? f.key = (d.get f).map f.toJson := by
  ext v
  rw [Json.Members.get?, lookup_eq_some_iff h.nodup, h.mem_iff]
  constructor
  · rintro ⟨g, hg, hv⟩
    exact DraftField.key_inj hg ▸ hv
  · intro hv
    exact ⟨f, rfl, hv⟩

theorem exists_field (h : members.Spells d) {key : String} (hkey : key ∈ members.map Prod.fst) :
    ∃ f : DraftField, f.key = key := by
  rcases List.mem_map.1 hkey with ⟨⟨k, v⟩, hmem, rfl⟩
  rcases (h.mem_iff k v).1 hmem with ⟨f, hf, _⟩
  exact ⟨f, hf⟩

theorem ofJson?_eq (h : members.Spells d) : PolicyDraft.ofJson? (.obj members) = some d := by
  refine PolicyDraft.ofJson?_obj_eq_some_iff.2 ⟨h.nodup, fun key hkey => h.exists_field hkey, ?_⟩
  intro f
  rw [h.get?_key]
  cases hf : d.get f with
  | none => rfl
  | some a => exact DraftField.readJson_toJson f a

/-- Nothing in the object is merged. -/
theorem merged_eq (h : members.Spells d) : Json.merged (.obj members) = .obj members := by
  have hvalues : Json.mergedMembers members = members := by
    rw [Json.mergedMembers_eq_map]
    refine (List.map_congr_left ?_).trans (List.map_id members)
    rintro ⟨key, v⟩ hmem
    rcases (h.mem_iff key v).1 hmem with ⟨f, _, hv⟩
    rcases Option.map_eq_some_iff.1 hv with ⟨a, _, rfl⟩
    -- The values of fields hold no objects.
    rw [DraftField.merged_toJson, id]
  rw [Json.merged, hvalues, Json.Members.merged_of_nodup h.nodup]

end Json.Members.Spells

/-! ## Objects in files -/

namespace Setting

theorem ofJsonItems_eq_map (items : List Json) : ofJsonItems items = items.map ofJson := by
  induction items with
  | nil => rfl
  | cons v items ih => rw [ofJsonItems, ih, List.map_cons]

theorem ofJsonMembers_eq_map (members : Json.Members) :
    ofJsonMembers members = members.map fun m => (m.1, ofJson m.2) := by
  induction members with
  | nil => rfl
  | cons m members ih => rw [ofJsonMembers, ih, List.map_cons]

theorem asList?_ofJson_toJson (input : ListInput) :
    unlessNil? asList? (ofJson input.toJson) = some (some input) := by
  cases input with
  | text s => rfl
  | list items =>
    have hone : ∀ s, plainText? (.text s) = some s := fun _ => rfl
    have hitems : (items.map Setting.text).mapM plainText? = some items :=
      mapM_map_eq_some hone items
    have hlist : ofJson (Json.ofStrings items) = .list (items.map .text) := by
      rw [Json.ofStrings, ofJson, ofJsonItems_eq_map, List.map_map]
      rfl
    rw [ListInput.toJson, hlist]
    simp [unlessNil?, asList?, hitems]

/-- A count of 63 bits stays an integer. -/
theorem asCount?_ofJson_ofInt {n : UInt64} (h : n.toNat < Nat.pow 2 63) :
    unlessNil? asCount? (ofJson (Json.ofInt n.toNat)) = some (some n) := by
  have hmax : (n.toNat : Int) ≤ Number.maxInt64 := by
    have hpow : Nat.pow 2 63 = 9223372036854775808 := by decide
    simp only [Number.maxInt64]
    omega
  simp [Json.ofInt, ofJson, ofJsonNumber, hmax, unlessNil?, asCount?]

end Setting

namespace Json.Members.Spells

variable {members : Json.Members} {d : PolicyDraft}

/-- Read as settings the object is the same draft, if its leeway has 63 bits. -/
theorem ofSettings?_eq (h : members.Spells d)
    (hleeway : ∀ seconds, d.leeway = some seconds → seconds.toNat < Nat.pow 2 63) :
    PolicyDraft.ofSettings? (PolicyFile.merged (Setting.ofJsonMembers members) []) = some d := by
  have hkeys : (Setting.ofJsonMembers members).map Prod.fst = members.map Prod.fst := by
    rw [Setting.ofJsonMembers_eq_map, List.map_map]
    rfl
  have hflat : Setting.Entries.IsFlat (Setting.ofJsonMembers members) := by
    refine ⟨?_, hkeys ▸ h.nodup⟩
    intro e he
    rcases h.exists_field (hkeys ▸ List.mem_map_of_mem he) with ⟨f, hf⟩
    exact hf ▸ Setting.standsForItself_key f
  have hget : ∀ key, Setting.Entries.get? (Setting.ofJsonMembers members) key =
      (members.get? key).map Setting.ofJson := by
    intro key
    rw [Setting.ofJsonMembers_eq_map]
    exact lookup_map_snd Setting.ofJson members key
  -- Different keys that stand for themselves are put over nothing.
  have hmerged : ∀ key, (PolicyFile.merged (Setting.ofJsonMembers members) []).get? key =
      Setting.Entries.get? (Setting.ofJsonMembers members) key := by
    intro key
    exact (Setting.get?_overlay (v := .table []) hflat).trans Option.or_none
  rw [PolicyDraft.ofSettings?_congr (PolicyFile.nodup_keys_merged _ _) hflat.nodup hmerged,
    PolicyDraft.ofSettings?_eq_some_iff hflat.nodup]
  refine ⟨fun key hkey => h.exists_field (hkeys ▸ hkey), ?_⟩
  intro f
  rw [hget, h.get?_key]
  cases hf : d.get f with
  | none => rfl
  | some a => cases f with
    | audience => rfl
    | algorithms | audiences | issuers => exact Setting.asList?_ofJson_toJson a
    | leeway => exact Setting.asCount?_ofJson_ofInt (hleeway a hf)

end Json.Members.Spells

namespace PolicyFile

variable {cs : List Char} {v : Json}

/-- A JSON text has no byte-order mark in front. -/
theorem withoutMark_of_parse? (h : Json.parse? cs = some v) : withoutMark cs = cs := by
  cases cs with
  | nil => rfl
  | cons c cs =>
    by_cases hmark : c.toNat = 0xFEFF
    · have hc : c = Char.ofNat 0xFEFF := by rw [← hmark, Char.ofNat_toNat]
      have hstep : Json.step .between c = ([.fault], .halted) := by
        rw [hc]
        decide
      have hparse : Json.parse (c :: cs) = .error (.inside []) := by
        rw [Json.parse, Json.tokens, Json.tokensFrom_cons hstep]
        rfl
      rw [Json.parse?, hparse] at h
      cases h
    · exact if_neg hmark

theorem table_of_parse? {name : String} {bytes : List UInt8} {members : Json.Members}
    {d : PolicyDraft} (hname : FileFormat.ofName? name = some .json)
    (hbytes : Text.Utf8.decode? bytes = some cs) (hparse : Json.parse? cs = some (.obj members))
    (h : members.Spells d) :
    (present name bytes).table = .ok (Setting.ofJsonMembers members) := by
  have hentries : entries? .json bytes = some (Setting.ofJsonMembers members) := by
    rw [entries?, hbytes, Option.bind_some, withoutMark_of_parse? hparse]
    simp only [FileFormat.entries?, Setting.ofJsonText?, hparse, Option.map_some, h.merged_eq]
  simp only [table, hname, hentries]

theorem settings_eq_nil {stem : String} {bindings : List (String × String)}
    (h : ∀ b ∈ bindings, ¬Environment.Counts stem b.1) : Environment.settings stem bindings = [] := by
  refine List.filterMap_eq_nil_iff.2 ?_
  intro b hb
  simp only [Environment.key?_eq_none_iff.2 (h b hb), Option.map_none]

end PolicyFile

/-! ## All paths -/

namespace PolicyDraft

end PolicyDraft

end BearerAuth
