import BearerAuth.Text.Cut

/-!
# Pieces between separators

Cutting loses nothing but the separators. A list is what its pieces give when they are put together
again, and lists without separators are the pieces of what they are put together to; so the parts of
a text between commas are the only ones that give it.
-/

namespace BearerAuth.Text

/-! ## Pieces -/

section Pieces

variable {α : Type} {p : α → Bool} {a : α} {l m first piece : List α} {others : List (List α)}

theorem exists_pieces_eq_cons (p : α → Bool) (l : List α) :
    ∃ first others, pieces p l = first :: others := by
  cases l with
  | nil => exact ⟨[], [], rfl⟩
  | cons a l =>
    unfold pieces
    cases p a with
    | true => exact ⟨[], pieces p l, rfl⟩
    | false =>
      cases pieces p l with
      | nil => exact ⟨[a], [], rfl⟩
      | cons first others => exact ⟨a :: first, others, rfl⟩

theorem pieces_cons_of_pos (ha : p a = true) : pieces p (a :: l) = [] :: pieces p l := by
  simp [pieces, ha]

/-- An element that is no separator belongs to the first piece. -/
theorem pieces_cons_of_neg (ha : p a = false) (hl : pieces p l = first :: others) :
    pieces p (a :: l) = (a :: first) :: others := by
  simp [pieces, ha, hl]

theorem pieces_append_of_forall (hm : ∀ a ∈ m, p a = false) (hl : pieces p l = first :: others) :
    pieces p (m ++ l) = (m ++ first) :: others := by
  induction m with
  | nil => exact hl
  | cons a m ih =>
    rcases List.forall_mem_cons.1 hm with ⟨ha, hrest⟩
    exact pieces_cons_of_neg ha (ih hrest)

theorem mem_of_mem_pieces (hpiece : piece ∈ pieces p l) (ha : a ∈ piece) :
    a ∈ l ∧ p a = false := by
  induction l generalizing piece with
  | nil =>
    obtain rfl : piece = [] := List.mem_singleton.1 hpiece
    cases ha
  | cons b l ih =>
    have hfurther : ∀ piece ∈ pieces p l, a ∈ piece → a ∈ b :: l ∧ p a = false := by
      intro piece hpiece ha
      exact ⟨List.mem_cons_of_mem b (ih hpiece ha).1, (ih hpiece ha).2⟩
    cases hb : p b with
    | true =>
      rw [pieces_cons_of_pos hb] at hpiece
      rcases List.mem_cons.1 hpiece with rfl | hrest
      · cases ha
      · exact hfurther piece hrest ha
    | false =>
      -- The element is put in front of the first piece of the rest.
      rcases exists_pieces_eq_cons p l with ⟨first, others, hl⟩
      rw [pieces_cons_of_neg hb hl] at hpiece
      rw [hl] at hfurther
      rcases List.mem_cons.1 hpiece with rfl | hothers
      · rcases List.mem_cons.1 ha with rfl | hfirst
        · exact ⟨List.mem_cons_self, hb⟩
        · exact hfurther first List.mem_cons_self hfirst
      · exact hfurther piece (List.mem_cons_of_mem first hothers) ha

/-- Cutting loses nothing but the separators. -/
theorem flatten_pieces (p : α → Bool) (l : List α) :
    (pieces p l).flatten = l.filter fun a => !p a := by
  induction l with
  | nil => rfl
  | cons a l ih =>
    cases ha : p a with
    | true =>
      rw [pieces_cons_of_pos ha, List.flatten_cons, List.nil_append, ih,
        List.filter_cons_of_neg (by simp [ha])]
    | false =>
      rcases exists_pieces_eq_cons p l with ⟨first, others, hl⟩
      rw [hl, List.flatten_cons] at ih
      rw [pieces_cons_of_neg ha hl, List.flatten_cons, List.cons_append, ih,
        List.filter_cons_of_pos (by simp [ha])]

theorem pieces_eq_splitOnP (p : α → Bool) (l : List α) : pieces p l = l.splitOnP p := by
  induction l with
  | nil => rfl
  | cons a l ih =>
    rcases exists_pieces_eq_cons p l with ⟨first, others, hl⟩
    rw [List.splitOnP_cons_eq_if_modifyHead, ← ih]
    cases ha : p a with
    | true => rw [pieces_cons_of_pos ha, if_pos rfl]
    | false => rw [pieces_cons_of_neg ha hl, hl, if_neg Bool.false_ne_true, List.modifyHead_cons]

end Pieces

/-! ## Parts of a text -/

/-- A text consists of these parts, with a comma between each part and the next. -/
structure IsJoined (parts : List String) (s : String) : Prop where
  ne_nil : parts ≠ []
  /-- No part has a comma of its own. -/
  noComma : ∀ part ∈ parts, ',' ∉ part.toList
  intercalate_eq : String.intercalate "," parts = s

variable {parts : List String} {s : String}

theorem commaParts_eq (s : String) :
    commaParts s = (s.toList.splitOn ',').map String.ofList := by
  rw [commaParts, pieces_eq_splitOnP]
  rfl

theorem isJoined_commaParts (s : String) : IsJoined (commaParts s) s := by
  refine ⟨?_, ?_, ?_⟩
  · rcases exists_pieces_eq_cons (· == ',') s.toList with ⟨first, others, hpieces⟩
    simp [commaParts, hpieces]
  · intro part hpart hcomma
    rcases List.mem_map.1 hpart with ⟨piece, hpiece, rfl⟩
    rw [String.toList_ofList] at hcomma
    simpa using (mem_of_mem_pieces hpiece hcomma).2
  · have hchars : (commaParts s).map String.toList = s.toList.splitOn ',' := by
      simp [commaParts_eq, Function.comp_def]
    apply String.toList_inj.1
    rw [String.toList_intercalate, hchars]
    exact List.intercalate_splitOn ','

/-- The parts of a text between commas are the only ones that it consists of. -/
theorem commaParts_eq_iff : commaParts s = parts ↔ IsJoined parts s := by
  constructor
  · rintro rfl
    exact isJoined_commaParts s
  · rintro ⟨hne, hcomma, rfl⟩
    have hno : ∀ piece ∈ parts.map String.toList, ',' ∉ piece := by
      intro piece hpiece
      rcases List.mem_map.1 hpiece with ⟨part, hpart, rfl⟩
      exact hcomma part hpart
    have hsplit : ([','].intercalate (parts.map String.toList)).splitOn ',' =
        parts.map String.toList :=
      List.splitOn_intercalate ',' hno (by simpa using hne)
    rw [commaParts_eq, String.toList_intercalate]
    calc
      (([','].intercalate (parts.map String.toList)).splitOn ',').map String.ofList
          = (parts.map String.toList).map String.ofList := by rw [hsplit]
      _ = parts := by simp [Function.comp_def]

end BearerAuth.Text
