import Mathlib.Data.List.Nodup

/-!
# Looking keys up

Members of an object and entries of a table are lists of keyed values. A key reads the value that
stands first under it, so where no key is repeated it reads the only one.
-/

namespace BearerAuth

variable {α : Type} {entries : List (String × α)} {key : String} {v : α}

theorem lookup_cons (e : String × α) (entries : List (String × α)) (key : String) :
    List.lookup key (e :: entries) = if e.1 = key then some e.2 else List.lookup key entries := by
  rcases e with ⟨k, v⟩
  by_cases h : k = key
  · subst h
    simp
  · have hne : (key == k) = false := by simpa using fun e => h e.symm
    simp [List.lookup_cons, hne, h]

theorem lookup_eq_none_iff : List.lookup key entries = none ↔ key ∉ entries.map Prod.fst := by
  rw [List.lookup_eq_none_iff, List.mem_map]
  constructor
  · rintro h ⟨e, he, rfl⟩
    simpa using h e he
  · intro h e he
    simpa using fun hkey : key = e.1 => h ⟨e, he, hkey.symm⟩

theorem mem_of_lookup (h : List.lookup key entries = some v) : (key, v) ∈ entries := by
  rcases List.lookup_eq_some_iff.1 h with ⟨before, after, rfl, _⟩
  simp

/-- Where no key is repeated, every entry can be looked up. -/
theorem lookup_eq_some_iff (hkeys : (entries.map Prod.fst).Nodup) :
    List.lookup key entries = some v ↔ (key, v) ∈ entries := by
  refine ⟨mem_of_lookup, ?_⟩
  intro hmem
  cases hlookup : List.lookup key entries with
  | none => exact absurd (List.mem_map_of_mem hmem) (lookup_eq_none_iff.1 hlookup)
  | some w =>
    -- Two entries of one key are one entry.
    have hsame : (key, v) = (key, w) :=
      List.inj_on_of_nodup_map hkeys hmem (mem_of_lookup hlookup) rfl
    rw [Prod.mk.inj hsame |>.2]

/-- Changing the values keeps the keys apart. -/
theorem lookup_map_snd {β : Type} (g : α → β) (entries : List (String × α)) (key : String) :
    List.lookup key (entries.map fun e => (e.1, g e.2)) = (List.lookup key entries).map g := by
  induction entries with
  | nil => rfl
  | cons e entries ih =>
    rw [List.map_cons, lookup_cons, lookup_cons, ih]
    split
    · rfl
    · rfl

theorem keys_zip_sublist (keys : List String) (values : List α) :
    ((keys.zip values).map Prod.fst).Sublist keys := by
  induction keys generalizing values with
  | nil => simp
  | cons key keys ih =>
    cases values with
    | nil => simp
    | cons v values => exact (ih values).cons_cons key

end BearerAuth
