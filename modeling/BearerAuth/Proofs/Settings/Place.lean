import BearerAuth.Proofs.Lookup
import BearerAuth.Proofs.Policy.Fields
import BearerAuth.Settings.Place

/-!
# Settings over settings

Putting a value in a place changes one entry of the table, the one that the place starts with. So an
overlay changes the entries that its keys lead into and no other, and where every key is a place of
its own, what it gives is what the overlay has for a key, or else what was there before.
-/

namespace BearerAuth.Setting

variable {v w value : Setting} {source entries : Entries} {key k : String} {steps : List Step}

/-! ## One entry -/

theorem get?_set (entries : Entries) (k : String) (value : Setting) (key : String) :
    (entries.set k value).get? key = if k = key then some value else entries.get? key := by
  simp only [Entries.get?]
  induction entries with
  | nil => exact lookup_cons (k, value) [] key
  | cons entry entries ih =>
    rcases entry with ⟨k', v'⟩
    rw [Entries.set]
    by_cases hk : k' = k
    · subst hk
      rw [if_pos rfl, lookup_cons, lookup_cons]
      split
      · rfl
      · rfl
    -- An entry under another key is passed by, and is read only under its own.
    · rw [if_neg hk, lookup_cons, lookup_cons, ih]
      by_cases hkey : k' = key
      · rw [if_pos hkey, if_pos hkey, if_neg fun e => hk (hkey.trans e.symm)]
      · rw [if_neg hkey, if_neg hkey]

theorem keys_set (entries : Entries) (k : String) (value : Setting) :
    (entries.set k value).map Prod.fst =
      if k ∈ entries.map Prod.fst then entries.map Prod.fst else entries.map Prod.fst ++ [k] := by
  induction entries with
  | nil => rfl
  | cons entry entries ih =>
    rcases entry with ⟨k', v'⟩
    unfold Entries.set
    by_cases hk : k' = k
    · simp [hk]
    · have hne : ¬k = k' := fun e => hk e.symm
      rw [if_neg hk, List.map_cons, ih]
      simp only [List.map_cons, List.mem_cons, hne, false_or]
      split
      · rfl
      · rfl

theorem nodup_keys_set (h : (entries.map Prod.fst).Nodup) :
    ((entries.set k value).map Prod.fst).Nodup := by
  rw [keys_set]
  split
  · exact h
  · next hk =>
    refine List.nodup_append.2 ⟨h, List.nodup_singleton k, ?_⟩
    rintro key hkey _ hlast rfl
    exact hk (List.mem_singleton.1 hlast ▸ hkey)

theorem get?_put (value : Setting) (k : String) (steps : List Step) (v : Setting) (key : String) :
    (put value (.entry k :: steps) v).entries.get? key =
      if k = key then some (put value steps ((v.entries.get? k).getD .nil))
      else v.entries.get? key := by
  rw [put, Setting.entries, get?_set]

/-! ## Keys and the entries that they lead into -/

/-- The entry that a place starts with; a place that starts with an item stands in no table. -/
def root (key : String) : String :=
  match place key with
  | .entry k :: _ => k
  | _ => key

theorem exists_place_eq (key : String) : ∃ k steps, place key = .entry k :: steps := by
  simp only [place]
  split
  · exact ⟨_, _, rfl⟩
  · split
    · exact ⟨_, _, rfl⟩
    · exact ⟨_, _, rfl⟩

theorem place_eq (key : String) : ∃ steps, place key = .entry (root key) :: steps := by
  rcases exists_place_eq key with ⟨k, steps, h⟩
  have hroot : root key = k := by rw [root, h]
  exact ⟨steps, hroot ▸ h⟩

/-- A key that is its own place. -/
def StandsForItself (key : String) : Prop :=
  place key = [.entry key]

theorem StandsForItself.root_eq (h : StandsForItself key) : root key = key := by
  unfold root
  rw [h]

instance (key : String) : Decidable (StandsForItself key) :=
  inferInstanceAs (Decidable (_ = _))

theorem standsForItself_key (f : DraftField) : StandsForItself f.key := by
  unfold StandsForItself
  cases f with
  | _ => decide +kernel

/-- A table of different keys that stand for themselves. -/
structure Entries.IsFlat (entries : Entries) : Prop where
  plain : ∀ e ∈ entries, StandsForItself e.1
  nodup : (entries.map Prod.fst).Nodup

theorem Entries.isFlat_cons_iff {e : String × Setting} :
    Entries.IsFlat (e :: entries) ↔
      StandsForItself e.1 ∧ e.1 ∉ entries.map Prod.fst ∧ entries.IsFlat := by
  constructor
  · rintro ⟨hplain, hnodup⟩
    rcases List.forall_mem_cons.1 hplain with ⟨he, hplain⟩
    rw [List.map_cons, List.nodup_cons] at hnodup
    exact ⟨he, hnodup.1, hplain, hnodup.2⟩
  · rintro ⟨he, hnew, hplain, hnodup⟩
    exact ⟨List.forall_mem_cons.2 ⟨he, hplain⟩, List.nodup_cons.2 ⟨hnew, hnodup⟩⟩

/-- The entries of a source that lead into the entry under a key. -/
def Entries.leadingInto (source : Entries) (key : String) : Entries :=
  source.filter fun e => root e.1 = key

theorem Entries.IsFlat.leadingInto_eq (h : entries.IsFlat) (key : String) :
    entries.leadingInto key = ((entries.get? key).map fun v => (key, v)).toList := by
  induction entries with
  | nil => rfl
  | cons e entries ih =>
    rcases e with ⟨k, v⟩
    rcases isFlat_cons_iff.1 h with ⟨he, hnew, hentries⟩
    rw [leadingInto, get?, lookup_cons]
    by_cases hkey : k = key
    · subst hkey
      -- No other entry has this key, and in a flat table no other key leads here.
      have hrest : leadingInto entries k = [] := by
        rw [ih hentries, get?, lookup_eq_none_iff.2 hnew]
        rfl
      rw [if_pos rfl, List.filter_cons_of_pos (by simpa using he.root_eq), ← leadingInto, hrest]
      rfl
    · rw [if_neg hkey, List.filter_cons_of_neg (by simpa [he.root_eq] using hkey)]
      exact ih hentries

/-! ## Overlays -/

theorem overlay_cons (v : Setting) (e : String × Setting) (source : Entries) :
    overlay v (e :: source) = overlay (put e.2 (place e.1) v) source := rfl

/-- An entry depends on what leads into it and on nothing else. -/
theorem get?_overlay_leadingInto (h : v.entries.get? key = w.entries.get? key) :
    (overlay v source).entries.get? key =
      (overlay w (source.leadingInto key)).entries.get? key := by
  induction source generalizing v w with
  | nil => exact h
  | cons e source ih =>
    rcases place_eq e.1 with ⟨steps, hsteps⟩
    rw [overlay_cons, hsteps, Entries.leadingInto]
    by_cases hroot : root e.1 = key
    · rw [List.filter_cons_of_pos (by simpa using hroot), overlay_cons, hsteps]
      apply ih
      rw [get?_put, get?_put, hroot, h]
    -- What is put elsewhere leaves the two sides equal under the key.
    · rw [List.filter_cons_of_neg (by simpa using hroot)]
      apply ih
      rw [get?_put, if_neg hroot, h]

/-- Different keys that all stand for themselves take their values from the overlay. -/
theorem get?_overlay (h : source.IsFlat) :
    (overlay v source).entries.get? key = (source.get? key).or (v.entries.get? key) := by
  induction source generalizing v with
  | nil => rfl
  | cons e source ih =>
    rcases Entries.isFlat_cons_iff.1 h with ⟨he, hnew, hsource⟩
    have hput := get?_put e.2 e.1 [] v key
    rw [overlay_cons, he, ih hsource, hput]
    simp only [Entries.get?, lookup_cons]
    by_cases hkey : e.1 = key
    -- The key is not set again, so it keeps what is put there now.
    · rw [← hkey, lookup_eq_none_iff.2 hnew]
      simp [put]
    · rw [if_neg hkey, if_neg hkey]

theorem nodup_keys_overlay (h : (v.entries.map Prod.fst).Nodup) :
    ((overlay v source).entries.map Prod.fst).Nodup := by
  induction source generalizing v with
  | nil => exact h
  | cons e source ih =>
    rcases place_eq e.1 with ⟨steps, hsteps⟩
    rw [overlay_cons, hsteps]
    exact ih (nodup_keys_set h)

end BearerAuth.Setting
