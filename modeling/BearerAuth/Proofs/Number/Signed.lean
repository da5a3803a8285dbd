import BearerAuth.Proofs.Number.Layout

/-!
# Integers in text

The grammar of an integer in text is an optional single sign before one or more ASCII digits, with
any number of zeros in front. Reading follows this grammar exactly, whatever the size of the
integer; the limits of 64 bits are laid on its value afterwards. The digits that an integer is
written with are one of its texts.
-/

namespace BearerAuth.Number

variable {cs : List Char} {n : Int}

/-- One or more ASCII digits and their decimal value. -/
structure IsDigits (cs : List Char) (n : Nat) : Prop where
  ne_nil : cs ≠ []
  isDigit : ∀ c ∈ cs, c.isDigit = true
  value : Nat.ofDigitChars 10 cs 0 = n

/-- An integer in text: digits after at most one sign. -/
inductive IsInteger : List Char → Int → Prop
  | unsigned {cs : List Char} {n : Nat} (h : IsDigits cs n) : IsInteger cs n
  | plus {cs : List Char} {n : Nat} (h : IsDigits cs n) : IsInteger ('+' :: cs) n
  | minus {cs : List Char} {n : Nat} (h : IsDigits cs n) : IsInteger ('-' :: cs) (-n)

/-- An integer has a place in 64 bits with a sign. -/
def IsInt64 (n : Int) : Prop :=
  minInt64 ≤ n ∧ n ≤ maxInt64

/-! ## Reading -/

theorem foldl_digits (cs : List Char) (m : Nat) :
    cs.foldl (fun n c => n * 10 + (c.toNat - '0'.toNat)) m = Nat.ofDigitChars 10 cs m := by
  rw [Nat.ofDigitChars_eq_foldl]
  simp only [Nat.mul_comm]

theorem digitsValue?_eq_some_iff {m : Nat} : digitsValue? cs = some m ↔ IsDigits cs m := by
  have hdigits : (cs.isEmpty || !cs.all Char.isDigit) = false ↔
      cs ≠ [] ∧ ∀ c ∈ cs, c.isDigit = true := by
    simp
  unfold digitsValue?
  rw [foldl_digits]
  change (if (cs.isEmpty || !cs.all Char.isDigit) = true then none else
    some (Nat.ofDigitChars 10 cs 0)) = some m ↔ _
  cases hread : cs.isEmpty || !cs.all Char.isDigit with
  | true =>
    rw [hread] at hdigits
    constructor
    · intro h
      cases h
    · intro h
      cases hdigits.2 ⟨h.ne_nil, h.isDigit⟩
  | false =>
    have hparts := hdigits.1 hread
    constructor
    · intro h
      exact ⟨hparts.1, hparts.2, Option.some.inj h⟩
    · intro h
      exact congrArg some h.value

/-- No sign is a digit, so a text has one reading at most. -/
theorem signedValue?_eq_some_iff : signedValue? cs = some n ↔ IsInteger cs n := by
  constructor
  · intro h
    unfold signedValue? at h
    split at h
    · rcases Option.map_eq_some_iff.1 h with ⟨m, hm, rfl⟩
      exact .plus (digitsValue?_eq_some_iff.1 hm)
    · rcases Option.map_eq_some_iff.1 h with ⟨m, hm, rfl⟩
      exact .minus (digitsValue?_eq_some_iff.1 hm)
    · rcases Option.map_eq_some_iff.1 h with ⟨m, hm, rfl⟩
      exact .unsigned (digitsValue?_eq_some_iff.1 hm)
  · intro h
    cases h with
    | plus h => rw [signedValue?, digitsValue?_eq_some_iff.2 h]; rfl
    | minus h => rw [signedValue?, digitsValue?_eq_some_iff.2 h]; rfl
    | @unsigned _ m h =>
      -- Digits have no sign in front, so the first two branches are closed to them.
      have hsign : ∀ c rest, cs = c :: rest → c ≠ '+' ∧ c ≠ '-' := by
        rintro c rest rfl
        have hdigit := h.isDigit c List.mem_cons_self
        constructor
        · rintro rfl
          cases hdigit
        · rintro rfl
          cases hdigit
      unfold signedValue?
      split
      · exact absurd rfl (hsign _ _ rfl).1
      · exact absurd rfl (hsign _ _ rfl).2
      · rw [digitsValue?_eq_some_iff.2 h]
        rfl

theorem IsInteger.unique {m : Int} (hm : IsInteger cs m) (hn : IsInteger cs n) : m = n :=
  Option.some.inj
    ((signedValue?_eq_some_iff.2 hm).symm.trans (signedValue?_eq_some_iff.2 hn))

theorem int64?_eq_some_iff : int64? cs = some n ↔ IsInteger cs n ∧ IsInt64 n := by
  unfold int64? IsInt64
  rw [Option.filter_eq_some_iff, signedValue?_eq_some_iff]
  simp

theorem int64?_eq_none_iff : int64? cs = none ↔ ∀ n, IsInteger cs n → ¬IsInt64 n := by
  rw [Option.eq_none_iff_forall_ne_some]
  simp only [ne_eq, int64?_eq_some_iff, not_and]

/-! ## Writing -/

theorem isDigits_digitsOf (m : Nat) : IsDigits (digitsOf m) m :=
  ⟨Nat.toDigits_ne_nil, fun _ => isDigit_of_mem_digitsOf, Nat.ofDigitChars_ten_toDigits⟩

/-- An integer is read back from its digits. -/
theorem isInteger_signedDigits (n : Int) : IsInteger (signedDigits n) n := by
  unfold signedDigits
  by_cases hnegative : n < 0
  · have hvalue : -(n.natAbs : Int) = n := by omega
    have hread : IsInteger ('-' :: digitsOf n.natAbs) (-(n.natAbs : Int)) :=
      .minus (isDigits_digitsOf n.natAbs)
    rw [if_pos hnegative]
    rwa [hvalue] at hread
  · have hvalue : (n.natAbs : Int) = n := by omega
    have hread : IsInteger (digitsOf n.natAbs) (n.natAbs : Int) :=
      .unsigned (isDigits_digitsOf n.natAbs)
    rw [if_neg hnegative]
    rwa [hvalue] at hread

end BearerAuth.Number
