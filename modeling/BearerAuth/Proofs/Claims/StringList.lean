import BearerAuth.Claims.StringList
import BearerAuth.Proofs.Json.Printer
import BearerAuth.Proofs.Text.Lower

/-!
# Lists of texts are in normal form

However a claim gives its list, as words of a string or as entries of an array, each text that is
read from it is not empty, has no blanks at its ends and is in lower case. A list of such texts is
read as itself, so that reading a list twice is reading it once.
-/

namespace BearerAuth.Claims

variable {v : Json} {items : List String} {s : String} {cs : List Char}

/-- A text is not empty, has no blanks at its ends and is in lower case. -/
structure IsNormal (s : String) : Prop where
  ne_empty : s ≠ ""
  trim_eq : Text.trim s = s
  lower_eq : Text.lower s = s

theorem isNormal_ofList (hne : cs ≠ []) (htrimmed : Text.IsTrimmed cs)
    (hlower : ∀ c ∈ cs, Text.IsLower c) : IsNormal (String.ofList cs) := by
  refine ⟨?_, htrimmed.trim_ofList, Text.lower_ofList_eq_self hlower⟩
  intro hempty
  have hnil : cs = [] := by
    rw [← String.toList_ofList (l := cs), hempty]
    rfl
  exact hne hnil

theorem IsNormal.isTrimmed (h : IsNormal s) : Text.IsTrimmed s.toList := by
  have htrimmed : Text.trimmed s.toList = s.toList := by
    rw [← String.ofList_inj, String.ofList_toList]
    exact h.trim_eq
  exact htrimmed ▸ Text.isTrimmed_trimmed s.toList

/-- A trimmed text is normal once it is in lower case, unless it is empty. -/
theorem isNormal_lower (htrimmed : Text.IsTrimmed cs) (hne : cs ≠ []) :
    IsNormal (Text.lower (String.ofList cs)) := by
  unfold Text.lower
  rw [String.toList_ofList]
  refine isNormal_ofList (mt Text.lowerFrom_eq_nil_iff.1 hne) htrimmed.lowerChars ?_
  intro c hc
  exact Text.isLower_of_mem_lowerFrom hc

theorem isNormal_of_mem_lowerWords {text : String} (h : s ∈ lowerWords text) : IsNormal s := by
  rcases List.mem_map.1 h with ⟨w, hw, rfl⟩
  rcases Text.of_mem_words hw with ⟨hne, hchars⟩
  refine isNormal_ofList hne ?_ ?_
  · exact Text.isTrimmed_of_forall fun c hc => (hchars c hc).2
  · intro c hc
    exact Text.isLower_of_mem_lowerFrom (hchars c hc).1

theorem isNormal_of_mem_entryTexts {entries : List Json} (h : s ∈ entryTexts entries) :
    IsNormal s := by
  rcases List.mem_filter.1 h with ⟨hmem, hne⟩
  rcases List.mem_filterMap.1 hmem with ⟨entry, _, hentry⟩
  have hne' : s ≠ "" := by simpa using hne
  have hother : ∀ v : Json, Text.lower v.compact = s → IsNormal s := by
    rintro v rfl
    exact isNormal_lower (Json.isTrimmed_write v) (Json.write_ne_nil v)
  cases entry with
  | null => cases hentry
  | str t =>
    -- A string is lower-cased after it has been trimmed.
    obtain rfl : Text.lower (Text.trim t) = s := Option.some.inj hentry
    have hfilled : Text.trimmed t.toList ≠ [] := by
      intro hnil
      apply hne'
      rw [Text.trim, hnil]
      rfl
    exact isNormal_lower (Text.isTrimmed_trimmed t.toList) hfilled
  | bool b => exact hother (.bool b) (Option.some.inj hentry)
  | num n => exact hother (.num n) (Option.some.inj hentry)
  | arr entries => exact hother (.arr entries) (Option.some.inj hentry)
  | obj members => exact hother (.obj members) (Option.some.inj hentry)

theorem nonempty_eq_ok_iff {items' : List String} :
    nonempty items = .ok items' ↔ items ≠ [] ∧ items = items' := by
  unfold nonempty
  cases items with
  | nil => simp
  | cons s items => simp

/-- What is read as a list is not empty, and its texts are normal. -/
theorem isNormal_of_stringList (h : stringList v = .ok items) :
    items ≠ [] ∧ ∀ s ∈ items, IsNormal s := by
  cases v with
  | str text =>
    rcases nonempty_eq_ok_iff.1 h with ⟨hne, rfl⟩
    exact ⟨hne, fun s hs => isNormal_of_mem_lowerWords hs⟩
  | arr entries =>
    rcases nonempty_eq_ok_iff.1 h with ⟨hne, rfl⟩
    exact ⟨hne, fun s hs => isNormal_of_mem_entryTexts hs⟩
  | _ => cases h

theorem entryTexts_map_str (h : ∀ s ∈ items, IsNormal s) : entryTexts (items.map .str) = items := by
  induction items with
  | nil => rfl
  | cons s items ih =>
    rcases List.forall_mem_cons.1 h with ⟨hs, hitems⟩
    have htext : entryText? (.str s) = some s := by rw [entryText?, hs.trim_eq, hs.lower_eq]
    have hrest : entryTexts (items.map .str) = items := ih hitems
    simp only [entryTexts, List.map_cons, List.filterMap_cons, htext] at hrest ⊢
    rw [List.filter_cons_of_pos (by simpa using hs.ne_empty), hrest]

/-- A list that has been read is read as itself. -/
theorem stringList_ofStrings (h : stringList v = .ok items) :
    stringList (Json.ofStrings items) = .ok items := by
  rcases isNormal_of_stringList h with ⟨hne, hnormal⟩
  have hentries : entryTexts (items.map .str) = items := entryTexts_map_str hnormal
  exact nonempty_eq_ok_iff.2 ⟨hentries.symm ▸ hne, hentries⟩

end BearerAuth.Claims
