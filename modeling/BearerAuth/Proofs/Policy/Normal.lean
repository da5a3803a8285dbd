import BearerAuth.Policy.Basic
import BearerAuth.Proofs.Result
import BearerAuth.Proofs.Text.Blank

/-!
# Lists in normal form

The list that is kept of a restricted field has the entries that are left after trimming, without
the blank ones, each at its first place only. What comes out is in normal form, and a list in normal
form is kept as it is.
-/

namespace BearerAuth.ListInput

variable {input : ListInput} {items seen l : List String} {s : String} {field : RestrictedList}

/-! ## Entries -/

/-- The entries of an input are the items of a list, or the parts of a text between its commas. -/
def HasEntries : ListInput → List String → Prop
  | list items, l => l = items
  | text s, l => Text.IsJoined l s

theorem hasEntries_iff : input.HasEntries l ↔ input.entries = l := by
  cases input with
  | text s => exact Text.commaParts_eq_iff.symm
  | list items => exact eq_comm

/-- A text that can be an entry: something in it is visible, and its ends are. -/
structure IsEntry (s : String) : Prop where
  visible : ∃ c ∈ s.toList, Text.isBlank c = false
  trimmed : Text.IsTrimmed s.toList

theorem isEntry_iff : IsEntry s ↔ s ≠ "" ∧ Text.trim s = s := by
  have hempty : s = "" ↔ s.toList = [] := by simp
  constructor
  · rintro ⟨⟨c, hc, _⟩, htrimmed⟩
    refine ⟨?_, ?_⟩
    · intro hs
      rw [hempty.1 hs] at hc
      cases hc
    · rw [Text.trim, htrimmed.trimmed_eq, String.ofList_toList]
  · rintro ⟨hne, htrim⟩
    have hchars : Text.trimmed s.toList = s.toList := by
      rw [← String.toList_ofList (l := Text.trimmed s.toList), ← Text.trim, htrim]
    have htrimmed : Text.IsTrimmed s.toList := hchars ▸ Text.isTrimmed_trimmed s.toList
    refine ⟨?_, htrimmed⟩
    -- The first character of a trimmed text is visible, if there is one.
    cases hs : s.toList with
    | nil => exact absurd (hempty.2 hs) hne
    | cons c cs => exact ⟨c, List.mem_cons_self, htrimmed.head c (by simp [hs])⟩

theorem trim_trim (s : String) : Text.trim (Text.trim s) = Text.trim s :=
  (Text.isTrimmed_trimmed s.toList).trim_ofList

theorem isEntry_of_mem_trimmedEntries (h : s ∈ input.trimmedEntries) : IsEntry s := by
  rcases List.mem_filter.1 h with ⟨hmem, hne⟩
  rcases List.mem_map.1 hmem with ⟨entry, _, rfl⟩
  exact isEntry_iff.2 ⟨by simpa using hne, trim_trim entry⟩

/-- A list of entries is not changed by trimming. -/
theorem trimmedEntries_list (h : ∀ s ∈ items, IsEntry s) : (list items).trimmedEntries = items := by
  have htrim : items.map Text.trim = items := by
    calc
      items.map Text.trim = items.map id :=
        List.map_congr_left fun s hs => (isEntry_iff.1 (h s hs)).2
      _ = items := List.map_id items
  unfold trimmedEntries entries
  rw [htrim, List.filter_eq_self]
  intro s hs
  simpa using (isEntry_iff.1 (h s hs)).1

/-! ## First occurrences -/

theorem firstOccurrences_cons_of_mem (h : s ∈ seen) :
    firstOccurrences seen (s :: l) = firstOccurrences seen l := by
  simp [firstOccurrences, h]

theorem firstOccurrences_cons_of_not_mem (h : s ∉ seen) :
    firstOccurrences seen (s :: l) = firstOccurrences (s :: seen) l := by
  simp [firstOccurrences, h]

theorem mem_firstOccurrences : s ∈ firstOccurrences seen l ↔ s ∈ seen ∨ s ∈ l := by
  induction l generalizing seen with
  | nil => simp [firstOccurrences]
  | cons t l ih =>
    by_cases ht : t ∈ seen
    -- A text that has been seen is left out, but it is not lost.
    · have hcons : s = t ∨ s ∈ l → s ∈ seen ∨ s ∈ l := Or.imp_left fun e => e ▸ ht
      rw [firstOccurrences_cons_of_mem ht, ih, List.mem_cons]
      exact ⟨Or.imp_right .inr, fun h => h.elim .inl hcons⟩
    · rw [firstOccurrences_cons_of_not_mem ht, ih, List.mem_cons, List.mem_cons, or_assoc,
        or_left_comm]

theorem nodup_firstOccurrences (h : seen.Nodup) : (firstOccurrences seen l).Nodup := by
  induction l generalizing seen with
  | nil => exact (List.reverse_perm seen).nodup_iff.2 h
  | cons t l ih =>
    by_cases ht : t ∈ seen
    · rw [firstOccurrences_cons_of_mem ht]
      exact ih h
    · rw [firstOccurrences_cons_of_not_mem ht]
      exact ih (List.nodup_cons.2 ⟨ht, h⟩)

/-- Texts that are all different are all kept. -/
theorem firstOccurrences_of_nodup (h : (seen.reverse ++ l).Nodup) :
    firstOccurrences seen l = seen.reverse ++ l := by
  induction l generalizing seen with
  | nil => simp [firstOccurrences]
  | cons t l ih =>
    have ht : t ∉ seen := by
      intro hmem
      exact (List.nodup_append.1 h).2.2 t (List.mem_reverse.2 hmem) t List.mem_cons_self rfl
    have hstep : (t :: seen).reverse ++ l = seen.reverse ++ t :: l := by simp
    rw [firstOccurrences_cons_of_not_mem ht, ih (hstep ▸ h), hstep]

/-! ## Restricted lists -/

/-- A list as it is kept: it has an entry, it has nothing but entries, and it has none of them
twice. -/
structure IsNormal (items : List String) : Prop where
  ne_nil : items ≠ []
  entries : ∀ s ∈ items, IsEntry s
  nodup : items.Nodup

theorem restricted_eq_ok_iff :
    restricted field input = .ok items ↔ input.normalized ≠ [] ∧ input.normalized = items := by
  unfold restricted
  cases input.normalized with
  | nil => simp
  | cons s rest => simp

/-- A list that has been checked is in normal form. -/
theorem isNormal_of_restricted (h : restricted field input = .ok items) : IsNormal items := by
  rcases restricted_eq_ok_iff.1 h with ⟨hne, rfl⟩
  refine ⟨hne, ?_, nodup_firstOccurrences List.nodup_nil⟩
  intro s hs
  rcases mem_firstOccurrences.1 hs with hnil | hmem
  · cases hnil
  · exact isEntry_of_mem_trimmedEntries hmem

/-- A list in normal form passes the check unchanged. -/
theorem IsNormal.restricted_list (h : IsNormal items) :
    restricted field (.list items) = .ok items := by
  have hnormalized : (list items).normalized = items := by
    unfold normalized
    rw [trimmedEntries_list h.entries]
    exact firstOccurrences_of_nodup h.nodup
  exact restricted_eq_ok_iff.2 ⟨hnormalized.symm ▸ h.ne_nil, hnormalized⟩

end BearerAuth.ListInput
