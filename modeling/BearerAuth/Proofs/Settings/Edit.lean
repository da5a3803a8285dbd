import BearerAuth.Proofs.Settings.Environment

/-!
# Edits of settings

An edit of a table gives some of the fields a value and leaves everything else. A key that leads
into a field is part of the field, so it goes when the field is given a value. Where all keys of a
table are plain and different, an edit is a change of values.
-/

namespace BearerAuth.Setting.Entries

variable {entries table : Entries} {given : DraftField → Option Setting} {key : String}

/-- One table is another with given values in some of the fields: such a field has its value, with
nothing else that leads into it, and all else is as it was. -/
structure IsEdit (given : DraftField → Option Setting) (entries table : Entries) : Prop where
  changed : ∀ (f : DraftField) (v : Setting), given f = some v →
    table.leadingInto f.key = [(f.key, v)]
  kept : ∀ key, (∀ f : DraftField, f.key = key → given f = none) →
    table.leadingInto key = entries.leadingInto key

/-- In flat tables, fields that are given a value have it and all other keys keep theirs. -/
theorem isEdit_iff (hentries : entries.IsFlat) (htable : table.IsFlat) :
    IsEdit given entries table ↔
      (∀ (f : DraftField) (v : Setting), given f = some v → table.get? f.key = some v) ∧
        ∀ key, (∀ f : DraftField, f.key = key → given f = none) →
          table.get? key = entries.get? key := by
  -- In a flat table at most one entry leads into a field, the one under its key.
  have hsame : ∀ (key : String) (o o' : Option Setting),
      (o.map fun v => (key, v)).toList = (o'.map fun v => (key, v)).toList ↔ o = o' := by
    intro key o o'
    cases o with
    | none => cases o' <;> simp
    | some v => cases o' <;> simp
  constructor
  · rintro ⟨hchanged, hkept⟩
    refine ⟨?_, ?_⟩
    · intro f v hf
      refine (hsame f.key _ (some v)).1 ?_
      rw [← htable.leadingInto_eq, hchanged f v hf]
      rfl
    · intro key hkey
      refine (hsame key _ _).1 ?_
      rw [← htable.leadingInto_eq, ← hentries.leadingInto_eq, hkept key hkey]
  · rintro ⟨hchanged, hkept⟩
    refine ⟨?_, ?_⟩
    · intro f v hf
      rw [htable.leadingInto_eq, hchanged f v hf]
      rfl
    · intro key hkey
      rw [htable.leadingInto_eq, hentries.leadingInto_eq, hkept key hkey]

/-! ## Making an edit -/

/-- The entries that lead into no field that is given a value. -/
def kept (entries : Entries) (given : DraftField → Option Setting) : Entries :=
  entries.filter fun e => ∀ f ∈ DraftField.all, given f = none ∨ root e.1 ≠ f.key

/-- The entries of the fields that are given values. -/
def gained (given : DraftField → Option Setting) : Entries :=
  DraftField.all.filterMap fun f => (given f).map fun v => (f.key, v)

/-- The table in which the fields that are given values have these values. -/
def edited (entries : Entries) (given : DraftField → Option Setting) : Entries :=
  entries.kept given ++ gained given

theorem gained_gives (given : DraftField → Option Setting) : (gained given).Gives given := by
  have hmem : ∀ key v, (key, v) ∈ gained given ↔
      ∃ f : DraftField, f.key = key ∧ given f = some v := by
    intro key v
    rw [gained, List.mem_filterMap]
    constructor
    · rintro ⟨f, _, hf⟩
      rcases Option.map_eq_some_iff.1 hf with ⟨w, hw, hpair⟩
      rcases Prod.mk.inj hpair with ⟨hkey, rfl⟩
      exact ⟨f, hkey, hw⟩
    · rintro ⟨f, rfl, hf⟩
      exact ⟨f, f.mem_all, by simp [hf]⟩
  refine ⟨?_, hmem⟩
  have hfields : DraftField.all.Nodup := by decide
  rw [gained, List.map_filterMap, List.nodup_iff_pairwise_ne, List.pairwise_filterMap]
  refine hfields.imp ?_
  rintro f g hne _ hf _ hg rfl
  simp only [Option.map_map, Option.map_eq_some_iff, Function.comp] at hf hg
  rcases hf with ⟨_, _, hkey⟩
  rcases hg with ⟨_, _, hkey'⟩
  exact hne (DraftField.key_inj (hkey.trans hkey'.symm))

theorem leadingInto_append (entries table : Entries) (key : String) :
    leadingInto (entries ++ table) key = entries.leadingInto key ++ table.leadingInto key :=
  List.filter_append ..

theorem leadingInto_kept (hkey : ∀ f : DraftField, f.key = key → given f = none) :
    (entries.kept given).leadingInto key = entries.leadingInto key := by
  rw [leadingInto, kept, List.filter_filter]
  refine List.filter_congr ?_
  intro e _
  -- A field of this key is given nothing, and other fields are other keys.
  have hkeep : root e.1 = key → ∀ f ∈ DraftField.all, given f = none ∨ root e.1 ≠ f.key := by
    intro hroot f _
    by_cases hf : f.key = key
    · exact .inl (hkey f hf)
    · exact .inr fun h => hf (h.symm.trans hroot)
  by_cases hroot : root e.1 = key
  · simpa [hroot] using hkeep hroot
  · simp [hroot]

theorem leadingInto_kept_eq_nil {f : DraftField} (hf : given f ≠ none) :
    (entries.kept given).leadingInto f.key = [] := by
  rw [leadingInto, kept, List.filter_filter, List.filter_eq_nil_iff]
  intro e _ h
  simp only [Bool.and_eq_true, decide_eq_true_eq] at h
  rcases h.2 f f.mem_all with hnone | hroot
  · exact hf hnone
  · exact hroot h.1

/-- What is made out of a table is an edit of it. -/
theorem isEdit_edited (entries : Entries) (given : DraftField → Option Setting) :
    IsEdit given entries (entries.edited given) := by
  have hgained := gained_gives given
  refine ⟨?_, ?_⟩
  · intro f v hf
    rw [edited, leadingInto_append, leadingInto_kept_eq_nil (by simp [hf]),
      hgained.isFlat.leadingInto_eq, hgained.get?_key, hf]
    rfl
  · intro key hkey
    rw [edited, leadingInto_append, leadingInto_kept hkey, hgained.isFlat.leadingInto_eq,
      hgained.get?_eq_none hkey]
    exact List.append_nil _

end BearerAuth.Setting.Entries
