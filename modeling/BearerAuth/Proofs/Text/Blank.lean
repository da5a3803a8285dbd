import BearerAuth.Proofs.Text.Cut
import BearerAuth.Text.Blank
import Mathlib.Data.List.TakeWhile

/-!
# Trimmed texts and words

A text is trimmed when neither its first nor its last character is blank. Trimming makes a text
trimmed and leaves a trimmed text as it is; words hold no blanks at all, and hold every other
character of the text. Nothing is left of a blank text either way.
-/

namespace BearerAuth.Text

variable {cs w : List Char} {c : Char}

/-! ## Trimming -/

/-- Neither the first nor the last character is blank. -/
structure IsTrimmed (cs : List Char) : Prop where
  head : ∀ c ∈ cs.head?, isBlank c = false
  last : ∀ c ∈ cs.getLast?, isBlank c = false

theorem trimLeft_eq_self_iff : trimLeft cs = cs ↔ ∀ c ∈ cs.head?, isBlank c = false := by
  unfold trimLeft
  cases cs with
  | nil => simp
  | cons c cs =>
    cases hc : isBlank c with
    | false => simp [hc]
    | true =>
      -- Without its head the list is too short to be the whole list again.
      have hlength := (List.dropWhile_sublist isBlank (l := cs)).length_le
      have hne : cs.dropWhile isBlank ≠ c :: cs := by
        intro h
        rw [h, List.length_cons] at hlength
        omega
      simp [hc, hne]

theorem trimRight_eq_self_iff : trimRight cs = cs ↔ ∀ c ∈ cs.getLast?, isBlank c = false := by
  have hleft : trimRight cs = cs ↔ trimLeft cs.reverse = cs.reverse := by
    unfold trimRight trimLeft
    exact List.reverse_eq_iff
  rw [hleft, trimLeft_eq_self_iff, List.head?_reverse]

theorem head_trimLeft (cs : List Char) : ∀ c ∈ (trimLeft cs).head?, isBlank c = false := by
  intro c hc
  have hfirst := List.head?_dropWhile_not isBlank cs
  have hhead : (cs.dropWhile isBlank).head? = some c := hc
  rw [hhead] at hfirst
  exact hfirst

theorem last_trimRight (cs : List Char) : ∀ c ∈ (trimRight cs).getLast?, isBlank c = false := by
  unfold trimRight
  rw [List.getLast?_reverse]
  exact head_trimLeft cs.reverse

theorem trimRight_prefix (cs : List Char) : trimRight cs <+: cs := by
  unfold trimRight
  rw [← List.reverse_suffix, List.reverse_reverse]
  exact List.dropWhile_suffix isBlank

theorem isTrimmed_trimmed (cs : List Char) : IsTrimmed (trimmed cs) := by
  refine ⟨?_, last_trimRight (trimLeft cs)⟩
  intro c hc
  -- What trimming on the right leaves starts like the whole list.
  rcases trimRight_prefix (trimLeft cs) with ⟨rest, hrest⟩
  have hhead : c ∈ (trimLeft cs).head? := by
    have hstart : (trimmed cs).head? = some c := hc
    rw [← hrest, List.head?_append, ← trimmed, hstart]
    rfl
  exact head_trimLeft cs c hhead

theorem IsTrimmed.trimmed_eq (h : IsTrimmed cs) : trimmed cs = cs := by
  unfold trimmed
  rw [trimLeft_eq_self_iff.2 h.head, trimRight_eq_self_iff.2 h.last]

theorem isTrimmed_of_forall (h : ∀ c ∈ cs, isBlank c = false) : IsTrimmed cs :=
  ⟨fun c hc => h c (List.mem_of_mem_head? hc), fun c hc => h c (List.mem_of_getLast? hc)⟩

theorem IsTrimmed.trim_ofList (h : IsTrimmed cs) : trim (String.ofList cs) = String.ofList cs := by
  unfold trim
  rw [String.toList_ofList, h.trimmed_eq]

/-- A text without a visible character. -/
def IsBlankText (s : String) : Prop :=
  ∀ c ∈ s.toList, isBlank c = true

instance (s : String) : Decidable (IsBlankText s) :=
  inferInstanceAs (Decidable (∀ c ∈ s.toList, isBlank c = true))

theorem trimLeft_eq_nil_iff : trimLeft cs = [] ↔ ∀ c ∈ cs, isBlank c = true := by
  unfold trimLeft
  exact List.dropWhile_eq_nil_iff

theorem trimRight_eq_nil_iff : trimRight cs = [] ↔ ∀ c ∈ cs, isBlank c = true := by
  unfold trimRight
  simp only [List.reverse_eq_nil_iff, List.dropWhile_eq_nil_iff, List.mem_reverse]

theorem trimmed_eq_nil_iff : trimmed cs = [] ↔ ∀ c ∈ cs, isBlank c = true := by
  rw [← trimLeft_eq_nil_iff, trimmed]
  constructor
  · intro hnil
    -- Trimming on the left would leave a visible character first.
    have hblank := trimRight_eq_nil_iff.1 hnil
    cases hleft : trimLeft cs with
    | nil => rfl
    | cons c rest =>
      have hvisible : isBlank c = false := head_trimLeft cs c (by rw [hleft]; rfl)
      have hc : isBlank c = true := hblank c (by rw [hleft]; exact List.mem_cons_self)
      rw [hvisible] at hc
      cases hc
  · intro hnil
    rw [hnil]
    rfl

/-- Trimming leaves nothing of a blank text, and of no other. -/
theorem trim_eq_empty_iff {s : String} : trim s = "" ↔ IsBlankText s := by
  rw [trim, String.ofList_eq_empty_iff, trimmed_eq_nil_iff, IsBlankText]

/-! ## Words -/

/-- A word is not empty, and its characters are characters of the text other than blanks. -/
theorem of_mem_words (h : w ∈ words cs) : w ≠ [] ∧ ∀ c ∈ w, c ∈ cs ∧ isBlank c = false := by
  rcases List.mem_filter.1 h with ⟨hpiece, hne⟩
  refine ⟨?_, ?_⟩
  · simpa using hne
  · intro c hc
    exact mem_of_mem_pieces hpiece hc

/-- The words one after the other are the text without its blanks. -/
theorem flatten_words (cs : List Char) : (words cs).flatten = cs.filter fun c => !isBlank c := by
  rw [words, List.flatten_filter_not_isEmpty, flatten_pieces]

/-- A text has no words exactly when all of it is blank. -/
theorem words_eq_nil_iff : words cs = [] ↔ ∀ c ∈ cs, isBlank c = true := by
  have hflatten : (words cs).flatten = [] ↔ ∀ c ∈ cs, isBlank c = true := by
    rw [flatten_words, List.filter_eq_nil_iff]
    simp only [Bool.not_eq_true', Bool.not_eq_false]
  rw [← hflatten]
  constructor
  · intro hnil
    rw [hnil]
    rfl
  -- No word is empty, so nothing comes of the words together only if there are none.
  · intro hnil
    refine List.eq_nil_iff_forall_not_mem.2 ?_
    intro w hw
    exact (of_mem_words hw).1 (List.flatten_eq_nil_iff.1 hnil w hw)

end BearerAuth.Text
