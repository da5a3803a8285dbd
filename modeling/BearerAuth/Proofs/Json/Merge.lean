import BearerAuth.Json.Field
import BearerAuth.Proofs.Lookup
import Mathlib.Data.List.Induction

/-!
# Merged members

Merging repeated keys keeps the last value of each key. So a key that stands once reads the same
before and after merging, up to the merging inside its value; and merging does not touch texts.
-/

namespace BearerAuth.Json

/-! ## Looking keys up -/

theorem Members.get?_cons (m : String × Json) (ms : Members) (key : String) :
    Members.get? (m :: ms) key = if m.1 = key then some m.2 else Members.get? ms key :=
  lookup_cons m ms key

theorem Members.get?_set (ms : Members) (k : String) (v : Json) (key : String) :
    (ms.set k v).get? key = if k = key then some v else ms.get? key := by
  induction ms with
  | nil => simp [Members.set, Members.get?_cons]
  | cons m ms ih =>
    rcases m with ⟨k', v'⟩
    by_cases hk : k' = k
    · subst hk
      by_cases hkey : k' = key
      · simp [Members.set, Members.get?_cons, hkey]
      · simp [Members.set, Members.get?_cons, hkey]
    · by_cases hkey : k' = key
      · have hne : ¬k = k' := fun e => hk e.symm
        simp [Members.set, Members.get?_cons, hk, ← hkey, hne]
      · simp [Members.set, Members.get?_cons, hk, hkey, ih]

/-- What a key reads depends only on the members under it. -/
theorem Members.get?_eq_head?_filter (ms : Members) (key : String) :
    ms.get? key = ((ms.filter fun m => m.1 = key).head?).map Prod.snd := by
  induction ms with
  | nil => rfl
  | cons m ms ih =>
    by_cases h : m.1 = key
    · simp [Members.get?_cons, h]
    · simp [Members.get?_cons, h, ih]

/-- A key that stands at most once reads the same from either end. -/
theorem Members.get?_reverse_of_length_le_one {ms : Members} {key : String}
    (h : (ms.filter fun m => m.1 = key).length ≤ 1) :
    Members.get? ms.reverse key = ms.get? key := by
  -- Reversing changes the order under one key only, and one member has no order.
  have hrev : (ms.filter fun m => m.1 = key).reverse = ms.filter fun m => m.1 = key := by
    cases hf : ms.filter fun m => m.1 = key with
    | nil => rfl
    | cons m rest =>
      have hnil : rest = [] := by simpa [hf] using h
      simp [hnil]
  rw [Members.get?_eq_head?_filter, Members.get?_eq_head?_filter, List.filter_reverse, hrev]

/-! ## Merging -/

/-- The last value of a key wins. -/
theorem Members.get?_merged (ms : Members) (key : String) :
    (Members.merged ms).get? key = Members.get? ms.reverse key := by
  -- Members are set from the left, so the induction takes them off at the right end.
  induction ms using List.reverseRecOn with
  | nil => rfl
  | append_singleton ms m ih =>
    have hstep : Members.merged (ms ++ [m]) = (Members.merged ms).set m.1 m.2 := by
      simp [Members.merged]
    rw [hstep, Members.get?_set, ih, List.reverse_append, List.reverse_singleton,
      List.singleton_append, Members.get?_cons]

theorem mergedItems_eq_map (items : List Json) : mergedItems items = items.map merged := by
  induction items with
  | nil => rfl
  | cons v rest ih => simp [mergedItems, ih]

theorem mergedMembers_eq_map (ms : Members) :
    mergedMembers ms = ms.map fun m => (m.1, m.2.merged) := by
  induction ms with
  | nil => rfl
  | cons m ms ih => simp [mergedMembers, ih]

theorem Members.get?_mergedMembers (ms : Members) (key : String) :
    Members.get? (Json.mergedMembers ms) key = (ms.get? key).map Json.merged := by
  rw [mergedMembers_eq_map]
  exact lookup_map_snd Json.merged ms key

/-- A key that stands at most once keeps its value, merged inside. -/
theorem Members.get?_mergedDeep {ms : Members} {key : String}
    (h : (ms.filter fun m => m.1 = key).length ≤ 1) :
    ms.mergedDeep.get? key = (ms.get? key).map Json.merged := by
  rw [Members.mergedDeep, Members.get?_merged, mergedMembers_eq_map, ← List.map_reverse,
    ← mergedMembers_eq_map, Members.get?_mergedMembers, Members.get?_reverse_of_length_le_one h]

/-! ## What merging leaves alone -/

theorem Members.set_of_not_mem {ms : Members} {key : String} (h : key ∉ ms.map Prod.fst) (v : Json) :
    ms.set key v = ms ++ [(key, v)] := by
  induction ms with
  | nil => rfl
  | cons m ms ih =>
    rw [List.map_cons, List.mem_cons, not_or] at h
    have hne : ¬m.1 = key := fun e => h.1 e.symm
    rw [Members.set, if_neg hne, ih h.2, List.cons_append]

/-- Different keys are kept apart. -/
theorem Members.merged_of_nodup {ms : Members} (h : (ms.map Prod.fst).Nodup) :
    Members.merged ms = ms := by
  induction ms using List.reverseRecOn with
  | nil => rfl
  | append_singleton ms m ih =>
    rw [List.map_append, List.map_singleton, List.nodup_append] at h
    have hnew : m.1 ∉ ms.map Prod.fst := fun hmem => h.2.2 _ hmem _ (List.mem_singleton_self _) rfl
    calc
      Members.merged (ms ++ [m]) = (Members.merged ms).set m.1 m.2 := by simp [Members.merged]
      _ = ms ++ [m] := by rw [ih h.1, Members.set_of_not_mem hnew]

theorem merged_ofStrings (items : List String) : (ofStrings items).merged = ofStrings items := by
  have hitems : (items.map Json.str).map merged = items.map Json.str := by
    rw [List.map_map]
    rfl
  rw [ofStrings, merged, mergedItems_eq_map, hitems]

@[simp] theorem merged_eq_str_iff {v : Json} {s : String} : v.merged = .str s ↔ v = .str s := by
  cases v with
  | str t => simp [merged]
  | _ => simp [merged]

@[simp] theorem string?_merged (v : Json) : v.merged.string? = v.string? := by
  cases v with
  | _ => simp [merged, string?]

end BearerAuth.Json
