import BearerAuth.Proofs.Policy.Normal
import BearerAuth.Proofs.Text.Cut
import Mathlib.Data.List.Basic
import Mathlib.Data.List.Induction

/-!
# What is kept of a restricted list

A restricted list keeps the different entries among those that are not blank, each of them once and
in the order in which they first occur. The entries are taken one at a time: one that has occurred
before changes nothing, and any other comes to the end of what is kept, where its first place in the
input is later than all the others.
-/

namespace BearerAuth.ListInput

variable {input : ListInput} {seen l kept kept' : List String} {s : String}
  {field : RestrictedList} {e : PolicyError}

/-! ## One entry after the other -/

/-- One more text at the end is kept if it has not occurred before. -/
theorem firstOccurrences_append_singleton :
    firstOccurrences seen (l ++ [s]) =
      if s ∈ seen ∨ s ∈ l then firstOccurrences seen l else firstOccurrences seen l ++ [s] := by
  induction l generalizing seen with
  | nil =>
    by_cases hs : s ∈ seen
    · simp [firstOccurrences, hs]
    · simp [firstOccurrences, hs]
  | cons t l ih =>
    rw [List.cons_append]
    by_cases ht : t ∈ seen
    · have hoccurs : s ∈ seen ∨ s ∈ t :: l ↔ s ∈ seen ∨ s ∈ l := by
        rw [List.mem_cons]
        exact ⟨Or.rec .inl (Or.imp_left fun hs => hs ▸ ht), Or.imp_right .inr⟩
      rw [firstOccurrences_cons_of_mem ht, firstOccurrences_cons_of_mem ht, ih]
      simp only [hoccurs]
    · have hoccurs : s ∈ seen ∨ s ∈ t :: l ↔ s ∈ t :: seen ∨ s ∈ l := by
        rw [List.mem_cons, List.mem_cons, or_assoc, or_left_comm]
      rw [firstOccurrences_cons_of_not_mem ht, firstOccurrences_cons_of_not_mem ht, ih]
      simp only [hoccurs]

/-- The different texts of a list, each of them once, in the order in which they first occur. -/
structure AreFirstOccurrences (l kept : List String) : Prop where
  count_eq : ∀ s, kept.count s = if s ∈ l then 1 else 0
  inOrder : kept.Pairwise fun s t => l.idxOf s < l.idxOf t

theorem pairwise_idxOf_firstOccurrences (l : List String) :
    (firstOccurrences [] l).Pairwise fun s t => l.idxOf s < l.idxOf t := by
  induction l using List.reverseRecOn with
  | nil => exact List.Pairwise.nil
  | append_singleton l s ih =>
    -- What has occurred keeps its first place when a text is added at the end.
    have hplace : ∀ t ∈ firstOccurrences [] l, (l ++ [s]).idxOf t = l.idxOf t ∧
        l.idxOf t < l.length := by
      intro t ht
      have hmem : t ∈ l := (mem_firstOccurrences.1 ht).resolve_left List.not_mem_nil
      exact ⟨List.idxOf_append_of_mem hmem, List.idxOf_lt_length_of_mem hmem⟩
    have hold : (firstOccurrences [] l).Pairwise
        fun t u => (l ++ [s]).idxOf t < (l ++ [s]).idxOf u := by
      refine ih.imp_of_mem ?_
      intro t u ht hu hlt
      rw [(hplace t ht).1, (hplace u hu).1]
      exact hlt
    rw [firstOccurrences_append_singleton]
    split
    · exact hold
    · next hnew =>
      have hs : s ∉ l := fun h => hnew (.inr h)
      refine List.pairwise_append.2 ⟨hold, List.pairwise_singleton _ _, ?_⟩
      intro t ht u hu
      obtain rfl : u = s := List.mem_singleton.1 hu
      rw [(hplace t ht).1, List.idxOf_append_of_notMem hs]
      exact Nat.lt_of_lt_of_le (hplace t ht).2 (Nat.le_add_right _ _)

theorem areFirstOccurrences_firstOccurrences (l : List String) :
    AreFirstOccurrences l (firstOccurrences [] l) := by
  refine ⟨?_, pairwise_idxOf_firstOccurrences l⟩
  intro s
  have hnodup : (firstOccurrences [] l).Nodup := nodup_firstOccurrences List.nodup_nil
  have hmem : s ∈ firstOccurrences [] l ↔ s ∈ l := by simp [mem_firstOccurrences]
  rw [hnodup.count]
  simp only [hmem]

/-- There is only one list of the first occurrences. -/
theorem AreFirstOccurrences.unique (h : AreFirstOccurrences l kept)
    (h' : AreFirstOccurrences l kept') : kept = kept' := by
  have hperm : kept.Perm kept' := by
    refine List.perm_iff_count.2 ?_
    intro s
    rw [h.count_eq, h'.count_eq]
  refine hperm.eq_of_pairwise ?_ h.inOrder h'.inOrder
  intro s t _ _ hst hts
  exact absurd hst (Nat.lt_asymm hts)

/-! ## Restricted lists -/

theorem normalized_eq_nil_iff : input.normalized = [] ↔ input.trimmedEntries = [] := by
  simp only [List.eq_nil_iff_forall_not_mem, normalized, mem_firstOccurrences, List.not_mem_nil,
    false_or]

theorem restricted_eq_error_iff :
    restricted field input = .error e ↔ input.trimmedEntries = [] ∧ e = .emptyList field := by
  rw [← normalized_eq_nil_iff]
  unfold restricted
  cases input.normalized with
  | nil => simp [eq_comm]
  | cons s rest => simp

theorem restricted_eq_ok_iff_first :
    restricted field input = .ok kept ↔
      input.trimmedEntries ≠ [] ∧ AreFirstOccurrences input.trimmedEntries kept := by
  rw [restricted_eq_ok_iff, Ne, normalized_eq_nil_iff]
  refine and_congr_right fun _ => ⟨?_, ?_⟩
  · rintro rfl
    exact areFirstOccurrences_firstOccurrences _
  · exact (areFirstOccurrences_firstOccurrences _).unique

/-- A restricted list is refused exactly when it has no entry other than blank ones, with the error
for its field. What is kept of any other list are its entries without the blank ones, each of them
once, in the order in which they first occur; given again as a list, it is kept unchanged. An input
is treated like the list of its entries, which for a text are the parts between its commas. -/
theorem restricted_keeps_first_occurrences (field : RestrictedList) (input : ListInput) :
    let entries := (input.entries.map Text.trim).filter (· ≠ "")
    (∀ e, restricted field input = .error e ↔ entries = [] ∧ e = .emptyList field) ∧
      (∀ kept, restricted field input = .ok kept ↔
        entries ≠ [] ∧ AreFirstOccurrences entries kept) ∧
      ((∃ kept, restricted field input = .ok kept) ↔ entries ≠ []) ∧
      (∀ kept, restricted field input = .ok kept →
        ∀ field', restricted field' (.list kept) = .ok kept) ∧
      input.HasEntries input.entries ∧
      ∀ items, input.HasEntries items →
        restricted field (.list items) = restricted field input := by
  intro entries
  refine ⟨fun e => restricted_eq_error_iff, fun kept => restricted_eq_ok_iff_first, ?_, ?_,
    hasEntries_iff.2 rfl, ?_⟩
  · constructor
    · rintro ⟨kept, hkept⟩
      exact (restricted_eq_ok_iff_first.1 hkept).1
    · intro hne
      exact ⟨_, restricted_eq_ok_iff_first.2 ⟨hne, areFirstOccurrences_firstOccurrences entries⟩⟩
  · intro kept hkept field'
    exact (isNormal_of_restricted hkept).restricted_list
  · intro items hitems
    obtain rfl : input.entries = items := hasEntries_iff.1 hitems
    rfl

/-- Letter case tells entries apart, blanks around them do not, and blank entries count for
nothing. -/
theorem sample_list_kept_once :
    restricted .audiences (.text " Api1 ,api2,, Api1 ,api1") = .ok ["Api1", "api2", "api1"] ∧
      restricted .issuers (.list ["Api1", "api2", "api1"]) = .ok ["Api1", "api2", "api1"] ∧
      restricted .issuers (.text " , ,") = .error (.emptyList .issuers) := by
  have hkept : restricted .audiences (.text " Api1 ,api2,, Api1 ,api1") =
      .ok ["Api1", "api2", "api1"] := by
    decide +kernel
  obtain ⟨_, _, _, hagain, _⟩ :=
    restricted_keeps_first_occurrences .audiences (.text " Api1 ,api2,, Api1 ,api1")
  obtain ⟨hrefused, _⟩ := restricted_keeps_first_occurrences .issuers (.text " , ,")
  exact ⟨hkept, hagain _ hkept .issuers, (hrefused _).2 ⟨by decide +kernel, rfl⟩⟩

end BearerAuth.ListInput
