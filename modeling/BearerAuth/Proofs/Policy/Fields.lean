import BearerAuth.Proofs.Lookup
import BearerAuth.Settings.Value
import Mathlib.Data.Fintype.Defs

/-!
# Reading drafts field by field

A draft is filled from keyed values one after another, whether they are the members of a JSON
object, the items of a JSON array or the entries of a table of settings. Where no key is repeated,
filling comes to the same as reading every field from the value under its key: each key has to be a
field, and a field without a value keeps what it had.
-/

namespace BearerAuth

/-! ## Fields -/

namespace DraftField

variable {f g : DraftField} {s : String}

theorem mem_all (f : DraftField) : f ∈ all := by
  cases f with
  | _ => decide

instance : Fintype DraftField :=
  ⟨⟨all, by decide⟩, mem_all⟩

theorem key_inj (h : f.key = g.key) : f = g := by
  have hall : ∀ f g : DraftField, f.key = g.key → f = g := by decide
  exact hall f g h

theorem ofKey?_key (f : DraftField) : ofKey? f.key = some f := by
  cases f with
  | _ => decide

theorem ofKey?_eq_some_iff : ofKey? s = some f ↔ f.key = s := by
  constructor
  · intro h
    simpa using List.find?_some h
  · rintro rfl
    exact ofKey?_key f

/-- What a field holds. -/
abbrev Value : DraftField → Type
  | audience => String
  | algorithms | audiences | issuers => ListInput
  | leeway => UInt64

def ofJson? : (f : DraftField) → Json → Option f.Value
  | audience => Json.string?
  | algorithms | audiences | issuers => ListInput.ofJson?
  | leeway => leeway?

def ofSetting? : (f : DraftField) → Setting → Option f.Value
  | audience => Setting.asText?
  | algorithms | audiences | issuers => Setting.asList?
  | leeway => Setting.asCount?

end DraftField

namespace PolicyDraft

variable {d e : PolicyDraft} {f g : DraftField}

def get (d : PolicyDraft) : (f : DraftField) → Option f.Value
  | .audience => d.audience
  | .algorithms => d.algorithms
  | .audiences => d.audiences
  | .issuers => d.issuers
  | .leeway => d.leeway

def withField (d : PolicyDraft) : (f : DraftField) → Option f.Value → PolicyDraft
  | .audience, a => { d with audience := a }
  | .algorithms, a => { d with algorithms := a }
  | .audiences, a => { d with audiences := a }
  | .issuers, a => { d with issuers := a }
  | .leeway, a => { d with leeway := a }

theorem eq_of_get (h : ∀ f, d.get f = e.get f) : d = e := by
  rcases d with ⟨audience, algorithms, audiences, issuers, leeway⟩
  rcases e with ⟨audience', algorithms', audiences', issuers', leeway'⟩
  obtain rfl : audience = audience' := h .audience
  obtain rfl : algorithms = algorithms' := h .algorithms
  obtain rfl : audiences = audiences' := h .audiences
  obtain rfl : issuers = issuers' := h .issuers
  obtain rfl : leeway = leeway' := h .leeway
  rfl

@[simp] theorem get_withField_self (d : PolicyDraft) (f : DraftField) (a : Option f.Value) :
    (d.withField f a).get f = a := by
  cases f with
  | _ => rfl

theorem get_withField_of_ne (h : g ≠ f) (a : Option f.Value) :
    (d.withField f a).get g = d.get g := by
  cases f with
  | _ =>
    cases g with
    | _ => first | rfl | exact absurd rfl h

@[simp] theorem get_empty (f : DraftField) : empty.get f = none := by
  cases f with
  | _ => rfl

/-! ## Filling -/

/-- A way to read what values of a type hold for a field; a value may say that there is nothing. -/
abbrev FieldReader (α : Type) := (f : DraftField) → α → Option (Option f.Value)

/-- Fills a draft from keyed values, which all have to be fields. -/
def fillWith {α : Type} (read : FieldReader α) (d : PolicyDraft) :
    List (String × α) → Option PolicyDraft
  | [] => some d
  | (key, v) :: rest =>
    (DraftField.ofKey? key).bind fun f =>
      (read f v).bind fun a => fillWith read (d.withField f a) rest

variable {α : Type} {read : FieldReader α} {entries : List (String × α)}

/-- Filling a draft is reading every field from the value under its key. -/
theorem fillWith_eq_some_iff (hkeys : (entries.map Prod.fst).Nodup) :
    fillWith read d entries = some e ↔
      (∀ key ∈ entries.map Prod.fst, ∃ f : DraftField, f.key = key) ∧
        ∀ f, (entries.lookup f.key).elim (some (d.get f)) (read f) = some (e.get f) := by
  induction entries generalizing d with
  | nil =>
    have hall : d = e ↔ ∀ f, d.get f = e.get f := ⟨fun h f => h ▸ rfl, eq_of_get⟩
    simpa [fillWith] using hall
  | cons entry rest ih =>
    rcases entry with ⟨key, v⟩
    rw [List.map_cons, List.nodup_cons] at hkeys
    rcases hkeys with ⟨hnew, hrest⟩
    rw [fillWith, Option.bind_eq_some_iff]
    -- The key is the key of one field, and nothing after it touches this field.
    constructor
    · rintro ⟨f, hf, hfill⟩
      rcases Option.bind_eq_some_iff.1 hfill with ⟨a, ha, hfill⟩
      obtain rfl : f.key = key := DraftField.ofKey?_eq_some_iff.1 hf
      rcases (ih hrest).1 hfill with ⟨hfields, hread⟩
      refine ⟨?_, ?_⟩
      · rw [List.map_cons, List.forall_mem_cons]
        exact ⟨⟨f, rfl⟩, hfields⟩
      · intro g
        rw [lookup_cons]
        by_cases hg : g = f
        · subst hg
          have hlast := hread g
          rw [lookup_eq_none_iff.2 hnew, Option.elim_none, get_withField_self] at hlast
          rw [if_pos rfl, Option.elim_some, ha, hlast]
        · rw [if_neg fun h => hg (DraftField.key_inj h.symm), ← hread g, get_withField_of_ne hg]
    · rintro ⟨hfields, hread⟩
      rw [List.map_cons, List.forall_mem_cons] at hfields
      rcases hfields with ⟨⟨f, rfl⟩, hfields⟩
      have ha : read f v = some (e.get f) := by
        rw [← hread f, lookup_cons, if_pos rfl, Option.elim_some]
      refine ⟨f, DraftField.ofKey?_key f, Option.bind_eq_some_iff.2 ⟨_, ha, ?_⟩⟩
      refine (ih hrest).2 ⟨hfields, ?_⟩
      intro g
      by_cases hg : g = f
      · subst hg
        rw [lookup_eq_none_iff.2 hnew, Option.elim_none, get_withField_self]
      · rw [get_withField_of_ne hg, ← hread g, lookup_cons,
          if_neg fun h => hg (DraftField.key_inj h.symm)]

/-! ## Settings -/

/-- What a setting holds for a field. -/
def readSetting : FieldReader Setting :=
  fun f => Setting.unlessNil? f.ofSetting?

theorem putSetting?_eq (d : PolicyDraft) (v : Setting) (f : DraftField) :
    d.putSetting? v f = (readSetting f v).map (d.withField f) := by
  cases f with
  | _ => rfl

theorem fillSettings?_eq_fillWith (d : PolicyDraft) (entries : Setting.Entries) :
    d.fillSettings? entries = fillWith readSetting d entries := by
  induction entries generalizing d with
  | nil => rfl
  | cons entry rest ih =>
    rcases entry with ⟨key, v⟩
    rw [fillSettings?, fillWith]
    cases DraftField.ofKey? key with
    | none => rfl
    | some f =>
      rw [Option.bind_some, Option.bind_some, putSetting?_eq]
      cases readSetting f v with
      | none => rfl
      | some a => exact ih (d.withField f a)

/-- A table of settings is a draft exactly when its keys are fields and its values can be read. -/
theorem ofSettings?_eq_some_iff {entries : Setting.Entries}
    (hkeys : (entries.map Prod.fst).Nodup) :
    ofSettings? entries = some d ↔
      (∀ key ∈ entries.map Prod.fst, ∃ f : DraftField, f.key = key) ∧
        ∀ f, (entries.get? f.key).elim (some none) (readSetting f) = some (d.get f) := by
  rw [ofSettings?, fillSettings?_eq_fillWith, fillWith_eq_some_iff hkeys]
  simp only [get_empty, Setting.Entries.get?]

/-- Tables that give every key the same value are read alike. -/
theorem ofSettings?_congr {entries entries' : Setting.Entries}
    (hkeys : (entries.map Prod.fst).Nodup) (hkeys' : (entries'.map Prod.fst).Nodup)
    (h : ∀ key, entries.get? key = entries'.get? key) :
    ofSettings? entries = ofSettings? entries' := by
  have hmem : ∀ key, key ∈ entries.map Prod.fst ↔ key ∈ entries'.map Prod.fst := by
    intro key
    rw [← not_iff_not, ← lookup_eq_none_iff, ← lookup_eq_none_iff]
    exact Eq.congr_left (h key)
  ext d
  rw [ofSettings?_eq_some_iff hkeys, ofSettings?_eq_some_iff hkeys']
  simp only [hmem, h]

/-! ## JSON -/

/-- What a JSON value holds for a field. -/
def readJson : FieldReader Json :=
  fun f => nullable? f.ofJson?

theorem put?_eq (d : PolicyDraft) (v : Json) (f : DraftField) :
    d.put? v f = (readJson f v).map (d.withField f) := by
  cases f with
  | _ => rfl

theorem fill?_eq_some_iff {seen : List DraftField} {members : Json.Members} :
    fill? seen d members = some e ↔
      (∀ f ∈ seen, f.key ∉ members.map Prod.fst) ∧ (members.map Prod.fst).Nodup ∧
        fillWith readJson d members = some e := by
  induction members generalizing seen d with
  | nil => simp [fill?, fillWith]
  | cons m rest ih =>
    rcases m with ⟨key, v⟩
    rw [fill?, fillWith]
    cases hf : DraftField.ofKey? key with
    | none => simp
    | some f =>
      obtain rfl : f.key = key := DraftField.ofKey?_eq_some_iff.1 hf
      by_cases hseen : f ∈ seen
      · refine iff_of_false (by simp [hseen]) ?_
        rintro ⟨hfresh, _⟩
        exact hfresh f hseen List.mem_cons_self
      · cases ha : readJson f v with
        | none => simp [put?_eq, ha]
        | some a =>
          -- A field that is new here has been seen from here on.
          have hnew : (∀ g ∈ seen, g.key ∉ ((f.key, v) :: rest).map Prod.fst) ↔
              ∀ g ∈ seen, g.key ∉ rest.map Prod.fst := by
            refine forall₂_congr fun g hg => not_congr ?_
            have hne : g.key ≠ f.key := fun h => hseen (DraftField.key_inj h ▸ hg)
            rw [List.map_cons, List.mem_cons, or_iff_right hne]
          rw [hnew]
          simp only [put?_eq, ha, Option.map_some, Option.bind_some, List.contains_eq_mem, hseen,
            decide_false, Bool.false_eq_true, if_false, ih, List.forall_mem_cons, List.map_cons,
            List.nodup_cons]
          constructor
          · rintro ⟨⟨hfresh, hrest⟩, hnodup, hfill⟩
            exact ⟨hrest, ⟨hfresh, hnodup⟩, hfill⟩
          · rintro ⟨hrest, ⟨hfresh, hnodup⟩, hfill⟩
            exact ⟨⟨hfresh, hrest⟩, hnodup, hfill⟩

/-- An object is a draft exactly when its keys are different fields and its values can be read. -/
theorem ofJson?_obj_eq_some_iff {members : Json.Members} :
    ofJson? (.obj members) = some d ↔
      (members.map Prod.fst).Nodup ∧ (∀ key ∈ members.map Prod.fst, ∃ f : DraftField, f.key = key) ∧
        ∀ f, (members.get? f.key).elim (some none) (readJson f) = some (d.get f) := by
  rw [ofJson?, fill?_eq_some_iff]
  constructor
  · rintro ⟨_, hkeys, hfill⟩
    refine ⟨hkeys, ?_⟩
    simpa only [get_empty, Json.Members.get?] using (fillWith_eq_some_iff hkeys).1 hfill
  · rintro ⟨hkeys, hread⟩
    refine ⟨by simp, hkeys, (fillWith_eq_some_iff hkeys).2 ?_⟩
    simpa only [get_empty, Json.Members.get?] using hread

/-- An array is read like an object with the keys of the fields in their order. -/
theorem fillInOrder?_eq_fillWith (fields : List DraftField) (items : List Json) :
    fillInOrder? d fields items = fillWith readJson d ((fields.map DraftField.key).zip items) := by
  induction fields generalizing d items with
  | nil => simp [fillInOrder?, fillWith]
  | cons f fields ih =>
    cases items with
    | nil => simp [fillInOrder?, fillWith]
    | cons v items =>
      rw [fillInOrder?, List.map_cons, List.zip_cons_cons, fillWith, DraftField.ofKey?_key,
        Option.bind_some, put?_eq]
      cases readJson f v with
      | none => rfl
      | some a => exact ih items

end PolicyDraft

end BearerAuth
