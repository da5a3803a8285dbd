import BearerAuth.Proofs.Claims.Serialization
import BearerAuth.Proofs.Policy.Validity

/-!
# Serialized policies and drafts read back

A draft is written as an object with a member for each of its fields, and every field is read back
from its member in the form in which it was given. A valid policy passes the check again as a draft,
and comes out as it went in: its lists are in normal form already, and its algorithms have the names
that they are read by.
-/

namespace BearerAuth

/-! ## Drafts -/

theorem ListInput.ofJson?_toJson (input : ListInput) : ofJson? input.toJson = some input := by
  cases input with
  | text s => rfl
  | list items =>
    have hone : ∀ s, Json.string? (.str s) = some s := fun _ => rfl
    have hitems : (items.map Json.str).mapM Json.string? = some items := mapM_map_eq_some hone items
    simp [toJson, Json.ofStrings, ofJson?, hitems]

theorem leeway?_ofInt (n : UInt64) : leeway? (Json.ofInt n.toNat) = some n := by
  have hmax : n.toNat ≤ Number.maxUInt64 := Nat.le_of_lt_succ n.toNat_lt
  simp [leeway?, Json.ofInt, hmax]

namespace DraftField

/-- The value of a field in JSON. -/
def toJson : (f : DraftField) → f.Value → Json
  | audience => Json.str
  | algorithms | audiences | issuers => ListInput.toJson
  | leeway => fun n => Json.ofInt n.toNat

theorem readJson_toJson (f : DraftField) (a : f.Value) :
    PolicyDraft.readJson f (f.toJson a) = some (some a) := by
  cases f with
  | audience => rfl
  | algorithms | audiences | issuers =>
    exact nullable?_of_eq_some rfl (ListInput.ofJson?_toJson a)
  | leeway => exact nullable?_of_eq_some rfl (leeway?_ofInt a)

end DraftField

namespace PolicyDraft

variable {d : PolicyDraft} {f : DraftField} {m : String × Json}

/-- The members that a field is written as. Only the audience is written when it is absent. -/
def written (d : PolicyDraft) (f : DraftField) : Json.Members :=
  if f = .audience then [(f.key, ((d.get f).map f.toJson).getD .null)]
  else (d.get f).toList.map fun a => (f.key, f.toJson a)

theorem toJson_eq (d : PolicyDraft) : d.toJson = .obj (DraftField.all.flatMap d.written) := by
  simp [toJson, DraftField.all, written, get, DraftField.toJson]

theorem mem_written_iff :
    m ∈ d.written f ↔ m.1 = f.key ∧
      (d.get f = none ∧ f = .audience ∧ m.2 = .null ∨
        ∃ a, d.get f = some a ∧ m.2 = f.toJson a) := by
  unfold written
  cases d.get f with
  | none =>
    by_cases hf : f = .audience
    · simp [hf, Prod.ext_iff]
    · simp [hf]
  | some a =>
    by_cases hf : f = .audience
    · simp [hf, Prod.ext_iff]
    · simp [hf, Prod.ext_iff]

theorem read_of_mem_written (h : m ∈ d.written f) :
    PolicyDraft.readJson f m.2 = some (d.get f) := by
  rcases mem_written_iff.1 h with ⟨_, ⟨hnone, rfl, hv⟩ | ⟨a, hsome, hv⟩⟩
  · rw [hv, hnone]
    rfl
  · rw [hv, hsome, DraftField.readJson_toJson]

theorem get_eq_none_of_written_eq_nil (h : d.written f = []) : d.get f = none := by
  unfold written at h
  split at h
  · cases h
  · simpa using h

theorem keys_written_sublist (d : PolicyDraft) (fields : List DraftField) :
    ((fields.flatMap d.written).map Prod.fst).Sublist (fields.map DraftField.key) := by
  induction fields with
  | nil => exact List.Sublist.refl []
  | cons f fields ih =>
    have hone : ((d.written f).map Prod.fst).Sublist [f.key] := by
      unfold written
      cases d.get f with
      | none =>
        split
        · exact List.Sublist.refl _
        · exact List.nil_sublist _
      | some a =>
        split
        · exact List.Sublist.refl _
        · exact List.Sublist.refl _
    rw [List.flatMap_cons, List.map_append, List.map_cons]
    exact hone.append ih

/-- A draft is read back from its object, whatever its fields hold. -/
theorem ofJson?_toJson (d : PolicyDraft) : ofJson? d.toJson = some d := by
  have hmem : ∀ m ∈ DraftField.all.flatMap d.written, ∃ f, m ∈ d.written f := by
    intro m hm
    rcases List.mem_flatMap.1 hm with ⟨f, _, hf⟩
    exact ⟨f, hf⟩
  rw [toJson_eq, ofJson?_obj_eq_some_iff]
  refine ⟨(keys_written_sublist d _).nodup (by decide), ?_, ?_⟩
  · intro key hkey
    rcases List.mem_map.1 hkey with ⟨m, hm, rfl⟩
    rcases hmem m hm with ⟨f, hf⟩
    exact ⟨f, (mem_written_iff.1 hf).1.symm⟩
  · intro f
    cases hfound : Json.Members.get? (DraftField.all.flatMap d.written) f.key with
    | none =>
      -- A field that is not among the members is not written at all.
      have hnone : d.written f = [] := by
        refine List.eq_nil_iff_forall_not_mem.2 ?_
        intro m hm
        have hall : m ∈ DraftField.all.flatMap d.written :=
          List.mem_flatMap.2 ⟨f, f.mem_all, hm⟩
        exact lookup_eq_none_iff.1 hfound ((mem_written_iff.1 hm).1 ▸ List.mem_map_of_mem hall)
      rw [get_eq_none_of_written_eq_nil hnone, Option.elim_none]
    | some v =>
      rcases hmem _ (mem_of_lookup hfound) with ⟨g, hg⟩
      obtain rfl : f = g := DraftField.key_inj (mem_written_iff.1 hg).1
      exact read_of_mem_written hg

theorem isPlain_toJson (d : PolicyDraft) (levels : Nat) : Json.IsPlain (levels + 2) d.toJson := by
  have hvalue : ∀ (f : DraftField) (a : f.Value), Json.IsPlain (levels + 1) (f.toJson a) := by
    intro f a
    have hlist : ∀ input : ListInput, Json.IsPlain (levels + 1) input.toJson := by
      intro input
      cases input with
      | text s => exact .str s
      | list items => exact Json.isPlain_ofStrings items
    cases f with
    | audience => exact .str a
    | algorithms | audiences | issuers => exact hlist a
    | leeway =>
      have hmax : UInt64.toNat a ≤ Number.maxUInt64 := Nat.le_of_lt_succ (UInt64.toNat_lt a)
      have hmin : Number.minInt64 ≤ 0 := by decide
      exact .int ⟨by omega, by exact_mod_cast hmax⟩
  rw [toJson_eq]
  refine .obj ?_
  intro m hm
  rcases List.mem_flatMap.1 hm with ⟨f, _, hf⟩
  rcases mem_written_iff.1 hf with ⟨_, ⟨_, _, hv⟩ | ⟨a, _, hv⟩⟩
  · exact hv ▸ .null
  · exact hv ▸ hvalue f a

end PolicyDraft

/-- Reading a text comes to checking the draft that its value is. -/
theorem PolicyText.read_of_parse? {α : Type} {cs : List Char} {v : Json} {d : PolicyDraft}
    (check : PolicyDraft → Except PolicyError α) (hparse : Json.parse? cs = some v)
    (hdraft : PolicyDraft.ofJson? v = some d) :
    read check cs = (check d).mapError fun e => .refused (some e) := by
  have hshort : isTooLong v = false := by
    cases v with
    | arr items =>
      rw [PolicyDraft.ofJson?] at hdraft
      split at hdraft
      · next hlength => exact decide_eq_false (Nat.not_lt.2 hlength)
      · cases hdraft
    | _ => rfl
  rw [read, toOption_eq_some_iff.1 hparse]
  simp only [judge_eq, draft?_of_ofJson? hdraft, hshort]
  cases check d with
  | error e => rfl
  | ok a => rfl

theorem PolicyText.read_write_toJson {α : Type} (check : PolicyDraft → Except PolicyError α)
    (d : PolicyDraft) :
    read check d.toJson.write = (check d).mapError fun e => .refused (some e) := by
  have hplain : Json.IsPlain Json.maxDepth d.toJson := d.isPlain_toJson 125
  exact read_of_parse? check (Json.parse?_write hplain) d.ofJson?_toJson

/-! ## Policies -/

theorem isEntry_name (a : Algorithm) : ListInput.IsEntry a.name := by
  cases a with
  | _ => exact ListInput.isEntry_iff.2 (by decide)

theorem checkOptional_list {kept : Option (List String)} (field : RestrictedList)
    (h : ∀ items ∈ kept, ListInput.IsNormal items) :
    checkOptional (ListInput.restricted field) (kept.map .list) = .ok kept := by
  cases kept with
  | none => rfl
  | some items =>
    have hchecked : ListInput.restricted field (.list items) = .ok items :=
      (h items rfl).restricted_list
    exact map_eq_ok_iff.2 ⟨items, hchecked, rfl⟩

namespace Policy

variable {p : Policy}

/-- A valid policy passes the check as a draft, and comes out unchanged. -/
theorem IsValid.validate_toDraft (h : p.IsValid) : p.toDraft.validate = .ok p := by
  refine PolicyDraft.validate_eq_ok_iff.2 ⟨rfl, ?_, ?_, ?_, rfl⟩
  · have hentries : (ListInput.list (p.algorithms.map Algorithm.name)).trimmedEntries =
        p.algorithms.map Algorithm.name := by
      refine ListInput.trimmedEntries_list ?_
      intro name hname
      rcases List.mem_map.1 hname with ⟨a, _, rfl⟩
      exact isEntry_name a
    simp only [PolicyDraft.checkedAlgorithms, toDraft, hentries]
    exact parseAlgorithms_eq_ok_iff.2 ⟨h.algorithms, rfl⟩
  · exact checkOptional_list .audiences h.audiences
  · exact checkOptional_list .issuers h.issuers

/-- Every policy is read back from its draft, from its JSON object and from the text of this object,
and every draft, whether it passes the check or not, from its object and the text of it. -/
theorem written_policy_reads_back :
    (∀ p : Policy, p.Obtainable →
      p.toDraft.validate = .ok p ∧ ofJson p.toJson = .ok p ∧ ofText p.toJson.compact = .ok p) ∧
    ∀ d : PolicyDraft,
      PolicyDraft.ofJson? d.toJson = some d ∧ PolicyDraft.ofText d.toJson.compact = .ok d := by
  constructor
  · intro p h
    have hcheck : p.toDraft.validate = .ok p := h.isValid.validate_toDraft
    refine ⟨hcheck, ?_, ?_⟩
    · rw [ofJson, toJson, PolicyDraft.ofJson?_toJson]
      exact mapError_eq_ok_iff.2 hcheck
    · rw [ofText, Json.compact, String.toList_ofList, toJson, PolicyText.read_write_toJson]
      exact mapError_eq_ok_iff.2 hcheck
  · intro d
    refine ⟨d.ofJson?_toJson, ?_⟩
    rw [PolicyDraft.ofText, Json.compact, String.toList_ofList, PolicyText.read_write_toJson]
    rfl

/-- A policy whose entries hold commas, quotes and letters beyond ASCII, with an algorithm twice and
the largest leeway, and one that allows no algorithm. -/
theorem sample_policy_reads_back :
    let full : Policy :=
      ⟨"", [.EdDSA, .EdDSA], some ["a,\"b\"", "\u0130\u03A3"], none, 0xffffffffffffffff⟩
    let bare : Policy := ⟨" , ", [], none, none, 0⟩
    (full.toDraft.validate = .ok full ∧ ofText full.toJson.compact = .ok full) ∧
      bare.toDraft.validate = .ok bare ∧ ofText bare.toJson.compact = .ok bare := by
  intro full bare
  have hfull : full.Obtainable := .checked full.toDraft (by decide +kernel)
  have hbare : bare.Obtainable := .checked bare.toDraft (by decide +kernel)
  rcases written_policy_reads_back.1 full hfull with ⟨hcheck, _, htext⟩
  rcases written_policy_reads_back.1 bare hbare with ⟨hcheck', _, htext'⟩
  exact ⟨⟨hcheck, htext⟩, hcheck', htext'⟩

end Policy

end BearerAuth
