import BearerAuth.Proofs.Text.Blank
import BearerAuth.Text.Lower

/-!
# Lower-casing once is enough

Every character of a lower-cased text stands for itself when the text is lower-cased again, final
sigmas included. A character is blank exactly when its lower-case images are, so that lower-casing
neither empties a text nor takes away that it is trimmed.

What the table of case runs has to satisfy for this is checked run by run: the images of a run are
apart from every run, from U+0130, from the blanks and from the surrogates.
-/

namespace BearerAuth.Text

/-! ## Runs -/

namespace CaseRun

variable {r q : CaseRun} {n : Nat}

/-- Whether no image of the run belongs to the run `q`, because the two are apart or because `q`
holds every other code point and the images are the ones in between. -/
def avoids (r q : CaseRun) : Bool :=
  q.last < r.image || r.apply r.last < q.first ||
    (q.stride == 2 && (r.stride == 2 || r.first == r.last) && (r.image + q.first) % 2 == 1)

/-- Whether a range of code points meets neither the run nor its images. -/
def misses (r : CaseRun) (range : Nat × Nat) : Bool :=
  (r.last < range.1 || range.2 < r.first) && (r.apply r.last < range.1 || range.2 < r.image)

theorem covers_iff :
    r.covers n = true ↔ (r.first ≤ n ∧ n ≤ r.last) ∧ (n - r.first) % r.stride = 0 := by
  simp [covers]

theorem covers_apply_of_avoids (havoids : r.avoids q = true) (hn : r.covers n = true) :
    q.covers (r.apply n) = false := by
  rw [covers_iff] at hn
  rw [Bool.eq_false_iff, ne_eq, covers_iff]
  simp only [avoids, Bool.or_eq_true, Bool.and_eq_true, decide_eq_true_eq, beq_iff_eq] at havoids
  simp only [CaseRun.apply] at havoids ⊢
  rintro ⟨hwithin, hplace⟩
  rcases havoids with (habove | hbelow) | ⟨⟨htwo, heven⟩, hodd⟩
  · omega
  · omega
  -- Both distances are even, but the two starts differ in parity.
  · have heven' : (n - r.first) % 2 = 0 := by
      rcases heven with hstride | hsingle
      · rw [← hstride]
        exact hn.2
      · omega
    rw [htwo] at hplace
    omega

theorem not_within_of_misses {range : Nat × Nat} (hmisses : r.misses range = true)
    (hn : r.covers n = true) :
    ¬(range.1 ≤ n ∧ n ≤ range.2) ∧ ¬(range.1 ≤ r.apply n ∧ r.apply n ≤ range.2) := by
  rw [covers_iff] at hn
  simp only [misses, Bool.and_eq_true, Bool.or_eq_true, decide_eq_true_eq] at hmisses
  simp only [CaseRun.apply] at hmisses ⊢
  omega

end CaseRun

/-- The blank code points as ranges. -/
def blankRanges : List (Nat × Nat) :=
  [(9, 13), (0x20, 0x20), (0x85, 0x85), (0xA0, 0xA0), (0x1680, 0x1680), (0x2000, 0x200A),
    (0x2028, 0x2029), (0x202F, 0x202F), (0x205F, 0x205F), (0x3000, 0x3000)]

theorem isBlankCode_eq_inRanges (n : Nat) : isBlankCode n = inRanges blankRanges n := by
  rw [Bool.eq_iff_iff]
  simp only [isBlankCode, inRanges, blankRanges, List.any_cons, List.any_nil, Bool.or_eq_true,
    Bool.and_eq_true, decide_eq_true_eq, beq_iff_eq, Bool.false_eq_true, or_false]
  omega

/-- U+0130 as a run. Its image is longer than one character, so it is in no run of the table. -/
def dottedRun : CaseRun :=
  ⟨0x130, 0x130, 2, 0x69⟩

namespace CaseRun

variable {r : CaseRun} {n : Nat}

/-- Whether a run is as it has to be, beside the runs of the table. -/
def isSettled (r : CaseRun) : Bool :=
  caseRuns.all r.avoids && r.avoids dottedRun && blankRanges.all r.misses &&
    r.misses (0xD800, 0xDFFF) && r.apply r.last < 0x110000

/-- What lower-casing relies on in a run of the table. -/
structure Settled (r : CaseRun) : Prop where
  runs : ∀ q ∈ caseRuns, r.avoids q = true
  dotted : r.avoids dottedRun = true
  blanks : ∀ range ∈ blankRanges, r.misses range = true
  surrogates : r.misses (0xD800, 0xDFFF) = true
  bound : r.apply r.last < 0x110000

theorem settled_of_mem (h : r ∈ caseRuns) : r.Settled := by
  have hall : caseRuns.all isSettled = true := by decide +kernel
  have hsettled : r.isSettled = true := List.all_eq_true.1 hall r h
  simp only [isSettled, Bool.and_eq_true, List.all_eq_true, decide_eq_true_eq] at hsettled
  rcases hsettled with ⟨⟨⟨⟨hruns, hdotted⟩, hblanks⟩, hsurrogates⟩, hbound⟩
  exact ⟨hruns, hdotted, hblanks, hsurrogates, hbound⟩

theorem apply_le_of_covers (hn : r.covers n = true) : r.apply n ≤ r.apply r.last := by
  have hrange := (covers_iff.1 hn).1
  simp only [CaseRun.apply]
  omega

end CaseRun

/-! ## Code points -/

variable {n : Nat} {c d : Char} {cs : List Char} {before : Bool}

/-- A code point of a run has its image there, and any other stands for itself. -/
theorem lowerCode_cases (n : Nat) :
    lowerCode n = n ∨ ∃ r ∈ caseRuns, r.covers n = true ∧ lowerCode n = r.apply n := by
  unfold lowerCode
  cases h : caseRuns.find? (fun r => r.covers n) with
  | none => exact .inl rfl
  | some r => exact .inr ⟨r, List.mem_of_find?_eq_some h, by simpa using List.find?_some h, rfl⟩

theorem lowerCode_of_not_covers (h : ∀ q ∈ caseRuns, q.covers n = false) : lowerCode n = n := by
  unfold lowerCode
  rw [List.find?_eq_none.2 (fun q hq => by simp [h q hq])]

theorem lowerCode_lowerCode (n : Nat) : lowerCode (lowerCode n) = lowerCode n := by
  rcases lowerCode_cases n with hsame | ⟨r, hr, hcovers, happly⟩
  · rw [hsame, hsame]
  · rw [happly]
    apply lowerCode_of_not_covers
    intro q hq
    exact CaseRun.covers_apply_of_avoids ((CaseRun.settled_of_mem hr).runs q hq) hcovers

theorem lowerCode_ne_dotted (h : n ≠ 0x130) : lowerCode n ≠ 0x130 := by
  rcases lowerCode_cases n with hsame | ⟨r, hr, hcovers, happly⟩
  · rwa [hsame]
  · intro hdotted
    have hnot := CaseRun.covers_apply_of_avoids (CaseRun.settled_of_mem hr).dotted hcovers
    rw [← happly, hdotted] at hnot
    exact absurd hnot (by decide)

theorem inRanges_eq_false_iff {ranges : List (Nat × Nat)} :
    inRanges ranges n = false ↔ ∀ range ∈ ranges, ¬(range.1 ≤ n ∧ n ≤ range.2) := by
  simp [inRanges]

theorem isBlankCode_lowerCode (n : Nat) : isBlankCode (lowerCode n) = isBlankCode n := by
  rcases lowerCode_cases n with hsame | ⟨r, hr, hcovers, happly⟩
  · rw [hsame]
  -- Neither a code point of a run nor its image is blank.
  · have houtside := fun range hrange =>
      CaseRun.not_within_of_misses ((CaseRun.settled_of_mem hr).blanks range hrange) hcovers
    have hcode : inRanges blankRanges n = false :=
      inRanges_eq_false_iff.2 fun range hrange => (houtside range hrange).1
    have himage : inRanges blankRanges (r.apply n) = false :=
      inRanges_eq_false_iff.2 fun range hrange => (houtside range hrange).2
    rw [happly, isBlankCode_eq_inRanges, isBlankCode_eq_inRanges, hcode, himage]

theorem isValidChar_lowerCode (h : n.isValidChar) : (lowerCode n).isValidChar := by
  rcases lowerCode_cases n with hsame | ⟨r, hr, hcovers, happly⟩
  · rwa [hsame]
  · have hsettled := CaseRun.settled_of_mem hr
    have hsurrogate := (CaseRun.not_within_of_misses hsettled.surrogates hcovers).2
    have hbound := Nat.lt_of_le_of_lt (CaseRun.apply_le_of_covers hcovers) hsettled.bound
    rw [happly]
    simp only [Nat.isValidChar] at hsurrogate ⊢
    omega

/-! ## Characters -/

/-- A character that stands for itself in lower case. -/
def IsLower (c : Char) : Prop :=
  c ≠ 'Σ' ∧ lowerChar c = [c]

instance (c : Char) : Decidable (IsLower c) :=
  inferInstanceAs (Decidable (_ ∧ _))

theorem lowerChar_eq (h : c.toNat ≠ 0x130) : lowerChar c = [Char.ofNat (lowerCode c.toNat)] := by
  unfold lowerChar
  by_cases hascii : c.toNat < 0x80
  -- The ASCII letters have their own rule, which says what the table says.
  · have htable : ∀ n < 0x80, (if 0x41 ≤ n ∧ n ≤ 0x5A then n + 32 else n) = lowerCode n := by
      decide +kernel
    rw [if_pos hascii, ← htable _ hascii]
    split
    · rfl
    · rw [Char.ofNat_toNat]
  · rw [if_neg hascii, if_neg h]

theorem toNat_lowerCode (c : Char) :
    (Char.ofNat (lowerCode c.toNat)).toNat = lowerCode c.toNat := by
  have hvalid : (lowerCode c.toNat).isValidChar := isValidChar_lowerCode c.valid
  rw [Char.ofNat, dif_pos hvalid]
  rfl

theorem lowerChar_ne_nil (c : Char) : lowerChar c ≠ [] := by
  unfold lowerChar
  split
  · simp
  · split
    · simp
    · simp

/-- U+0130 has two images, and every other character has the one of its code point. -/
theorem lowerChar_cases (hd : d ∈ lowerChar c) :
    c.toNat = 0x130 ∧ (d = 'i' ∨ d = Char.ofNat 0x307) ∨
      c.toNat ≠ 0x130 ∧ d.toNat = lowerCode c.toNat := by
  by_cases hdotted : c.toNat = 0x130
  · exact .inl ⟨hdotted, by simpa [lowerChar, hdotted] using hd⟩
  · rw [lowerChar_eq hdotted, List.mem_singleton] at hd
    exact .inr ⟨hdotted, by rw [hd, toNat_lowerCode]⟩

theorem isLower_of_mem_lowerChar (hd : d ∈ lowerChar c) : IsLower d := by
  rcases lowerChar_cases hd with ⟨_, rfl | rfl⟩ | ⟨hdotted, hcode⟩
  · decide +kernel
  · decide +kernel
  · have hne : d.toNat ≠ 0x130 := hcode ▸ lowerCode_ne_dotted hdotted
    have hsame : lowerCode d.toNat = d.toNat := by rw [hcode, lowerCode_lowerCode]
    refine ⟨?_, ?_⟩
    · rintro rfl
      exact absurd hsame (by decide +kernel)
    · rw [lowerChar_eq hne, hsame, Char.ofNat_toNat]

theorem isBlank_of_mem_lowerChar (hd : d ∈ lowerChar c) : isBlank d = isBlank c := by
  rcases lowerChar_cases hd with ⟨hdotted, rfl | rfl⟩ | ⟨_, hcode⟩
  · rw [isBlank, isBlank, hdotted]
    decide
  · rw [isBlank, isBlank, hdotted]
    decide
  · rw [isBlank, hcode, isBlankCode_lowerCode, isBlank]

/-! ## Texts -/

/-- The images of a character in its place in a text. -/
def lowerAt (before : Bool) (c : Char) (cs : List Char) : List Char :=
  if c = 'Σ' then [lowerSigma before cs] else lowerChar c

theorem lowerFrom_cons :
    lowerFrom before (c :: cs) = lowerAt before c cs ++ lowerFrom (casedAfter before c) cs := rfl

theorem lowerSigma_cases (before : Bool) (cs : List Char) :
    lowerSigma before cs = 'ς' ∨ lowerSigma before cs = 'σ' := by
  unfold lowerSigma
  split
  · exact .inl rfl
  · exact .inr rfl

theorem lowerAt_ne_nil : lowerAt before c cs ≠ [] := by
  unfold lowerAt
  split
  · simp
  · exact lowerChar_ne_nil c

theorem isLower_of_mem_lowerAt (hd : d ∈ lowerAt before c cs) : IsLower d := by
  unfold lowerAt at hd
  split at hd
  · rw [List.mem_singleton.1 hd]
    rcases lowerSigma_cases before cs with hfinal | hplain
    · rw [hfinal]
      decide +kernel
    · rw [hplain]
      decide +kernel
  · exact isLower_of_mem_lowerChar hd

theorem isBlank_of_mem_lowerAt (hd : d ∈ lowerAt before c cs) : isBlank d = isBlank c := by
  unfold lowerAt at hd
  split at hd
  · next hsigma =>
    rw [List.mem_singleton.1 hd, hsigma]
    rcases lowerSigma_cases before cs with hfinal | hplain
    · rw [hfinal]
      decide
    · rw [hplain]
      decide
  · exact isBlank_of_mem_lowerChar hd

theorem isLower_of_mem_lowerFrom (hd : d ∈ lowerFrom before cs) : IsLower d := by
  induction cs generalizing before with
  | nil => cases hd
  | cons c cs ih =>
    rw [lowerFrom_cons, List.mem_append] at hd
    rcases hd with hhere | hlater
    · exact isLower_of_mem_lowerAt hhere
    · exact ih hlater

/-- A text of characters that stand for themselves is left as it is, whatever comes before it. -/
theorem lowerFrom_eq_self (h : ∀ c ∈ cs, IsLower c) : lowerFrom before cs = cs := by
  induction cs generalizing before with
  | nil => rfl
  | cons c cs ih =>
    rcases List.forall_mem_cons.1 h with ⟨⟨hsigma, hsame⟩, hrest⟩
    rw [lowerFrom_cons, lowerAt, if_neg hsigma, hsame, ih hrest, List.singleton_append]

theorem lowerChars_lowerChars (cs : List Char) : lowerChars (lowerChars cs) = lowerChars cs :=
  lowerFrom_eq_self fun _ hc => isLower_of_mem_lowerFrom hc

theorem lower_lower (s : String) : lower (lower s) = lower s := by
  unfold lower
  rw [String.toList_ofList, lowerChars_lowerChars]

theorem lower_ofList_eq_self (h : ∀ c ∈ cs, IsLower c) :
    lower (String.ofList cs) = String.ofList cs := by
  unfold lower lowerChars
  rw [String.toList_ofList, lowerFrom_eq_self h]

theorem lowerFrom_eq_nil_iff : lowerFrom before cs = [] ↔ cs = [] := by
  cases cs with
  | nil => simp [lowerFrom]
  | cons c cs => simp [lowerFrom_cons, lowerAt_ne_nil]

theorem lower_eq_empty_iff {s : String} : lower s = "" ↔ s = "" := by
  rw [lower, lowerChars, String.ofList_eq_empty_iff, lowerFrom_eq_nil_iff, String.toList_eq_nil_iff]

theorem head_lowerFrom (h : ∀ c ∈ cs.head?, isBlank c = false) :
    ∀ c ∈ (lowerFrom before cs).head?, isBlank c = false := by
  intro d hd
  cases cs with
  | nil => cases hd
  | cons c cs =>
    have hc : isBlank c = false := h c rfl
    rw [lowerFrom_cons, List.head?_append, List.head?_eq_some_head lowerAt_ne_nil] at hd
    have hfirst : (lowerAt before c cs).head lowerAt_ne_nil = d := by simpa using hd
    rw [isBlank_of_mem_lowerAt (hfirst ▸ List.head_mem lowerAt_ne_nil), hc]

theorem last_lowerFrom (h : ∀ c ∈ cs.getLast?, isBlank c = false) :
    ∀ c ∈ (lowerFrom before cs).getLast?, isBlank c = false := by
  induction cs generalizing before with
  | nil => simp [lowerFrom]
  | cons c cs ih =>
    intro d hd
    rw [lowerFrom_cons] at hd
    by_cases hcs : cs = []
    -- The images of the last character come last.
    · subst hcs
      have hc : isBlank c = false := h c rfl
      rw [lowerFrom, List.append_nil] at hd
      rw [isBlank_of_mem_lowerAt (List.mem_of_getLast? hd), hc]
    · have hrest : lowerFrom (casedAfter before c) cs ≠ [] := mt lowerFrom_eq_nil_iff.1 hcs
      rw [List.getLast?_append, List.getLast?_eq_some_getLast hrest] at hd
      rw [Option.some_or, ← List.getLast?_eq_some_getLast hrest] at hd
      refine ih (fun c' hc' => h c' ?_) d hd
      rwa [List.getLast?_cons_of_ne_nil hcs]

/-- A character that is neither cased nor skipped, so that no sigma is looked at across it. -/
def IsUncased (c : Char) : Prop :=
  isCaseIgnorable c = false ∧ isCased c = false

instance (c : Char) : Decidable (IsUncased c) :=
  inferInstanceAs (Decidable (_ ∧ _))

theorem startsCased_append_cons {ds : List Char} (hc : IsUncased c) :
    startsCased (cs ++ c :: ds) = startsCased cs := by
  induction cs with
  | nil => simp [startsCased, hc.1, hc.2]
  | cons b cs ih => simp only [List.cons_append, startsCased, ih]

/-- A text is lower-cased on either side of an uncased character by itself. -/
theorem lowerFrom_append_cons {ds : List Char} (hc : IsUncased c) :
    lowerFrom before (cs ++ c :: ds) =
      lowerFrom before cs ++ (lowerChar c ++ lowerFrom false ds) := by
  induction cs generalizing before with
  | nil =>
    have hsigma : c ≠ 'Σ' := by
      rintro rfl
      exact absurd hc (by decide +kernel)
    have hafter : casedAfter before c = false := by simp [casedAfter, hc.1, hc.2]
    rw [List.nil_append, lowerFrom_cons, hafter, lowerAt, if_neg hsigma]
    rfl
  | cons b cs ih =>
    have hhere : lowerAt before b (cs ++ c :: ds) = lowerAt before b cs := by
      simp only [lowerAt, lowerSigma, startsCased_append_cons hc]
    rw [List.cons_append, lowerFrom_cons, lowerFrom_cons, hhere, ih, List.append_assoc]

theorem IsTrimmed.lowerChars (h : IsTrimmed cs) : IsTrimmed (lowerChars cs) :=
  ⟨head_lowerFrom h.head, last_lowerFrom h.last⟩

end BearerAuth.Text
