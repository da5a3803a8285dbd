import BearerAuth.Number.Layout
import BearerAuth.Text.Blank

/-!
# What stands in a written number

In every layout a written number is a text of digits, signs, points and exponent marks that is not
empty, so no blank stands in it.
-/

namespace BearerAuth.Number

variable {c : Char} {cs : List Char}

/-- The characters that numbers are written with. -/
def isNumberChar (c : Char) : Bool :=
  c.isDigit || c == '.' || c == '-' || c == '+' || c == 'e'

theorem toNat_of_isDigit (h : c.isDigit = true) : 48 ≤ c.toNat ∧ c.toNat ≤ 57 := by
  simpa [Char.isDigit, UInt32.le_iff_toNat_le] using h

theorem isBlank_of_isNumberChar (h : isNumberChar c = true) : Text.isBlank c = false := by
  simp only [isNumberChar, Bool.or_eq_true, beq_iff_eq] at h
  rcases h with (((hdigit | rfl) | rfl) | rfl) | rfl
  · have hrange := toNat_of_isDigit hdigit
    rw [Text.isBlank, Bool.eq_false_iff]
    simp only [Text.isBlankCode, ne_eq, Bool.or_eq_true, Bool.and_eq_true, decide_eq_true_eq,
      beq_iff_eq]
    omega
  · decide
  · decide
  · decide
  · decide

/-- A text of the characters that numbers are written with, which is not empty. -/
structure IsNumberText (cs : List Char) : Prop where
  ne_nil : cs ≠ []
  all : cs.all isNumberChar = true

theorem IsNumberText.isBlank_eq_false (h : IsNumberText cs) : ∀ c ∈ cs, Text.isBlank c = false :=
  fun c hc => isBlank_of_isNumberChar (List.all_eq_true.1 h.all c hc)

theorem IsNumberText.cons (hc : isNumberChar c = true) (h : IsNumberText cs) :
    IsNumberText (c :: cs) :=
  ⟨List.cons_ne_nil c cs, by rw [List.all_cons, hc, h.all]; rfl⟩

theorem isDigit_of_mem_digitsOf {n : Nat} (h : c ∈ digitsOf n) : c.isDigit = true :=
  Nat.isDigit_of_mem_toDigits (by decide) (by decide) h

/-- The digits of a positive number do not start with a zero. -/
theorem head_digitsOf {n : Nat} (h : 0 < n) : ∀ c ∈ (digitsOf n).head?, c ≠ '0' := by
  induction n using Nat.strongRecOn with
  | ind n ih =>
    intro c hc
    by_cases hsmall : n < 10
    · have hdigits : ∀ n < 10, 0 < n → Nat.digitChar n ≠ '0' := by decide
      rw [digitsOf, Nat.toDigits_of_lt_base hsmall] at hc
      obtain rfl : Nat.digitChar n = c := by simpa using hc
      exact hdigits n hsmall h
    -- All digits but the last are those of a tenth of the number.
    · rw [digitsOf, Nat.toDigits_of_base_le (by decide) (by omega), List.head?_append,
        List.head?_eq_some_head Nat.toDigits_ne_nil, Option.some_or] at hc
      refine ih (n / 10) (by omega) (by omega) c ?_
      rwa [digitsOf, List.head?_eq_some_head Nat.toDigits_ne_nil]

theorem isNumberText_digitsOf (n : Nat) : IsNumberText (digitsOf n) := by
  refine ⟨Nat.toDigits_ne_nil, List.all_eq_true.2 ?_⟩
  intro c hc
  simp [isNumberChar, isDigit_of_mem_digitsOf hc]

theorem isNumberText_signedDigits (n : Int) : IsNumberText (signedDigits n) := by
  unfold signedDigits
  split
  · exact .cons (by decide) (isNumberText_digitsOf _)
  · exact isNumberText_digitsOf _

theorem isNumberText_positional (keepsPoint : Bool) (d : Decimal) :
    IsNumberText (positional keepsPoint d) := by
  have hdigits := isNumberText_digitsOf d.digits
  have hzero : isNumberChar '0' = true := by decide
  have hpoint : isNumberChar '.' = true := by decide
  dsimp only [positional]
  split
  · refine ⟨by simp [hdigits.ne_nil], ?_⟩
    cases keepsPoint with
    | true => simp [hdigits.all, hzero, hpoint]
    | false => simp [hdigits.all, hzero]
  · split
    -- Taking the digits apart at the point loses none of them.
    · next hlonger =>
      have hsplit := hdigits.all
      rw [← List.take_append_drop ((digitsOf d.digits).length - (-d.exponent).toNat)
        (digitsOf d.digits), List.all_append, Bool.and_eq_true] at hsplit
      refine ⟨by simp, ?_⟩
      rw [List.all_append, List.all_cons, hsplit.1, hsplit.2, hpoint]
      rfl
    · exact ⟨by simp, by simp [hdigits.all, hzero, hpoint]⟩

theorem isNumberText_scientific (d : Decimal) (lead : Int) : IsNumberText (scientific d lead) := by
  have hdigits := isNumberText_digitsOf d.digits
  have hexponent := isNumberText_digitsOf lead.natAbs
  have hmark : isNumberChar 'e' = true := by decide
  have hpoint : isNumberChar '.' = true := by decide
  have hsign : isNumberChar (if 0 ≤ lead then '+' else '-') = true := by
    split
    · decide
    · decide
  refine ⟨by simp [scientific], ?_⟩
  dsimp only [scientific]
  rw [List.all_append, List.all_cons, List.all_cons, hmark, hsign, hexponent.all]
  split
  · rfl
  · next first heq =>
    rw [heq] at hdigits
    rw [hdigits.all]
    rfl
  · next first rest _ heq =>
    rw [heq] at hdigits
    have hall := hdigits.all
    rw [List.all_cons] at hall ⊢
    rw [List.all_cons, hpoint, Bool.true_and, hall]
    rfl

theorem isNumberText_write (layout : Layout) (d : Decimal) : IsNumberText (layout.write d) := by
  dsimp only [Layout.write]
  split
  · exact isNumberText_positional _ d
  · exact isNumberText_scientific d _

theorem isNumberText_render (layout : Layout) (x : Binary64) :
    IsNumberText (layout.render x).toList := by
  rw [Layout.render, String.toList_ofList]
  cases x.negative with
  | true => exact .cons (by decide) (isNumberText_write layout x.shortest)
  | false => exact isNumberText_write layout x.shortest

end BearerAuth.Number
