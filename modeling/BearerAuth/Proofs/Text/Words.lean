import BearerAuth.Proofs.Text.Lower

/-!
# The words of a lower-cased text

Lower-casing and cutting into words may be done in either order. A blank character is its own
lower-case image, no other character becomes blank, and no capital sigma looks at its neighbours
across a blank one, so that each word is lower-cased as if it stood alone.

That a sigma never looks across a blank is checked on the tables: no blank code point is
case-ignorable or cased.
-/

namespace BearerAuth.Text

variable {cs ds w : List Char} {ws : List (List Char)} {c : Char} {n : Nat} {before : Bool}

/-! ## Blank characters -/

theorem isBlank_iff : isBlank c = true ↔ ∃ range ∈ blankRanges, range.1 ≤ c.toNat ∧
    c.toNat ≤ range.2 := by
  rw [isBlank, isBlankCode_eq_inRanges]
  simp [inRanges]

/-- Ranges that lie apart from the blank ones hold no blank code point. -/
theorem inRanges_eq_false_of_isBlank {ranges : List (Nat × Nat)}
    (hapart : blankRanges.all (fun b => ranges.all fun r => b.2 < r.1 || r.2 < b.1) = true)
    (hc : isBlank c = true) : inRanges ranges c.toNat = false := by
  rcases isBlank_iff.1 hc with ⟨blank, hblank, hlow, hhigh⟩
  apply inRanges_eq_false_iff.2
  intro range hrange hwithin
  have hall := List.all_eq_true.1 (List.all_eq_true.1 hapart blank hblank) range hrange
  simp only [Bool.or_eq_true, decide_eq_true_eq] at hall
  omega

theorem isUncased_of_isBlank (hc : isBlank c = true) : IsUncased c := by
  constructor
  · exact inRanges_eq_false_of_isBlank (by decide +kernel) hc
  · exact inRanges_eq_false_of_isBlank (by decide +kernel) hc

theorem lowerCode_of_isBlankCode (hn : isBlankCode n = true) : lowerCode n = n := by
  rcases lowerCode_cases n with hsame | ⟨r, hr, hcovers, _⟩
  · exact hsame
  -- The runs of the table miss the blank ranges.
  · have hcode : inRanges blankRanges n = false :=
      inRanges_eq_false_iff.2 fun range hrange =>
        (CaseRun.not_within_of_misses ((CaseRun.settled_of_mem hr).blanks range hrange) hcovers).1
    rw [isBlankCode_eq_inRanges, hcode] at hn
    cases hn

theorem lowerChar_of_isBlank (hc : isBlank c = true) : lowerChar c = [c] := by
  have hdotted : c.toNat ≠ 0x130 := by
    intro h
    rw [isBlank, h] at hc
    exact absurd hc (by decide)
  rw [lowerChar_eq hdotted, lowerCode_of_isBlankCode hc, Char.ofNat_toNat]

/-- After a blank character a text is lower-cased as if it started there. -/
theorem lowerFrom_cons_of_isBlank (hc : isBlank c = true) :
    lowerFrom before (c :: cs) = c :: lowerChars cs := by
  have hsplit : lowerFrom before ([] ++ c :: cs) =
      lowerFrom before [] ++ (lowerChar c ++ lowerChars cs) :=
    lowerFrom_append_cons (isUncased_of_isBlank hc)
  rw [List.nil_append, lowerChar_of_isBlank hc] at hsplit
  exact hsplit

/-! ## Words -/

/-- Whether a cased letter comes next depends on the piece up to the next blank only. -/
theorem startsCased_of_pieces (h : pieces isBlank cs = w :: ws) :
    startsCased cs = startsCased w := by
  induction cs generalizing w ws with
  | nil =>
    obtain rfl : [] = w := (List.cons.inj h).1
    rfl
  | cons c cs ih =>
    cases hc : isBlank c with
    | true =>
      rw [pieces_cons_of_pos hc] at h
      obtain rfl : [] = w := (List.cons.inj h).1
      have huncased := isUncased_of_isBlank hc
      simp [startsCased, huncased.1, huncased.2]
    | false =>
      rcases exists_pieces_eq_cons isBlank cs with ⟨first, others, hrest⟩
      rw [pieces_cons_of_neg hc hrest] at h
      obtain rfl : c :: first = w := (List.cons.inj h).1
      simp only [startsCased, ih hrest]

/-- What comes before a text matters to its first piece only, and the others are lower-cased as
texts of their own. -/
theorem pieces_lowerFrom (h : pieces isBlank cs = w :: ws) :
    pieces isBlank (lowerFrom before cs) = lowerFrom before w :: ws.map lowerChars := by
  induction cs generalizing before w ws with
  | nil =>
    obtain ⟨rfl, rfl⟩ : [] = w ∧ [] = ws := List.cons.inj h
    rfl
  | cons c cs ih =>
    rcases exists_pieces_eq_cons isBlank cs with ⟨first, others, hrest⟩
    cases hc : isBlank c with
    | true =>
      -- A blank ends the first piece, and with it what is known about the text before.
      rw [pieces_cons_of_pos hc, hrest] at h
      obtain ⟨rfl, rfl⟩ : [] = w ∧ first :: others = ws := List.cons.inj h
      rw [lowerFrom_cons_of_isBlank hc, pieces_cons_of_pos hc, lowerChars, ih hrest]
      rfl
    | false =>
      rw [pieces_cons_of_neg hc hrest] at h
      obtain ⟨rfl, rfl⟩ : c :: first = w ∧ others = ws := List.cons.inj h
      have himages : ∀ d ∈ lowerAt before c cs, isBlank d = false := by
        intro d hd
        rw [isBlank_of_mem_lowerAt hd, hc]
      -- A sigma sees as much of the text in its piece as in the whole of it.
      have hhere : lowerAt before c cs = lowerAt before c first := by
        simp only [lowerAt, lowerSigma, startsCased_of_pieces hrest]
      calc
        pieces isBlank (lowerFrom before (c :: cs))
            = pieces isBlank (lowerAt before c cs ++ lowerFrom (casedAfter before c) cs) := rfl
        _ = (lowerAt before c cs ++ lowerFrom (casedAfter before c) first) ::
              others.map lowerChars := pieces_append_of_forall himages (ih hrest)
        _ = lowerFrom before (c :: first) :: others.map lowerChars := by
              rw [hhere, lowerFrom_cons]

/-- The words of a lower-cased text are the words of the text, each lower-cased by itself. -/
theorem words_lowerChars (cs : List Char) : words (lowerChars cs) = (words cs).map lowerChars := by
  rcases exists_pieces_eq_cons isBlank cs with ⟨first, others, hpieces⟩
  have hlowered : pieces isBlank (lowerChars cs) = (pieces isBlank cs).map lowerChars := by
    rw [lowerChars, pieces_lowerFrom hpieces, hpieces]
    rfl
  -- A piece is empty exactly when its lower-case form is.
  have hempty : ∀ w : List Char, (lowerChars w).isEmpty = w.isEmpty := by
    intro w
    rw [Bool.eq_iff_iff, List.isEmpty_iff, List.isEmpty_iff]
    exact lowerFrom_eq_nil_iff
  unfold words
  rw [hlowered, List.filter_map]
  simp only [Function.comp_def, hempty]

end BearerAuth.Text
