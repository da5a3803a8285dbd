import BearerAuth.Json.Printer
import BearerAuth.Json.Token
import BearerAuth.Proofs.Number.Layout

/-!
# The tokens of a compact text

The compact text of a value is taken apart into the tokens that belong to the value, provided that
its numbers are integers of 64 bits. A string is read back character by character, through the
escapes; a number is read digit by digit, up to the character that ends it.
-/

namespace BearerAuth.Json

/-! ## Values that read back -/

/-- The numbers of the value are integers of 64 bits, and its containers nest at most so many levels
deep. -/
inductive IsPlain : Nat → Json → Prop
  | null {levels : Nat} : IsPlain levels .null
  | bool {levels : Nat} (b : Bool) : IsPlain levels (.bool b)
  | int {levels : Nat} {n : Int} (h : Number.minInt64 ≤ n ∧ n ≤ Number.maxUInt64) :
    IsPlain levels (.num (.int n))
  | str {levels : Nat} (s : String) : IsPlain levels (.str s)
  | arr {levels : Nat} {items : List Json} (h : ∀ v ∈ items, IsPlain levels v) :
    IsPlain (levels + 1) (.arr items)
  | obj {levels : Nat} {members : Members} (h : ∀ m ∈ members, IsPlain levels m.2) :
    IsPlain (levels + 1) (.obj members)

mutual

/-- The tokens of the compact text of a value. -/
def writtenTokens : Json → List Token
  | .null => [.null]
  | .bool b => [.bool b]
  | .num n => [.num n]
  | .str s => [.str s]
  | .arr [] => [.openArray, .closeArray]
  | .arr (v :: rest) => .openArray :: (writtenTokens v ++ itemTokens rest)
  | .obj [] => [.openObject, .closeObject]
  | .obj ((k, v) :: rest) =>
    .openObject :: .str k :: .colon :: (writtenTokens v ++ memberTokens rest)

/-- The tokens of the remaining items of an array. -/
def itemTokens : List Json → List Token
  | [] => [.closeArray]
  | v :: rest => .comma :: (writtenTokens v ++ itemTokens rest)

/-- The tokens of the remaining members of an object. -/
def memberTokens : List (String × Json) → List Token
  | [] => [.closeObject]
  | (k, v) :: rest => .comma :: .str k :: .colon :: (writtenTokens v ++ memberTokens rest)

end

/-! ## Strings in a text -/

variable {c : Char} {cs rest : List Char} {seen : List Char}

theorem tokensFrom_cons {mode next : Mode} {out : List Token} (h : step mode c = (out, next)) :
    tokensFrom mode (c :: cs) = out ++ tokensFrom next cs := by
  rw [tokensFrom, h]

theorem tokensFrom_shortEscape {e : Char} (h : shortEscape? e = some c) :
    tokensFrom (.string seen) ('\\' :: e :: rest) = tokensFrom (.string (c :: seen)) rest := by
  have hmark : step (.string seen) '\\' = ([], .escape seen) := rfl
  have hcode : step (.escape seen) e = ([], .string (c :: seen)) := by simp [step, h]
  rw [tokensFrom_cons hmark, tokensFrom_cons hcode, List.nil_append, List.nil_append]

theorem hexValue?_digitChar {d : Nat} (h : d < 16) :
    Text.hexValue? (Nat.digitChar d) = some d := by
  have hall : ∀ d < 16, Text.hexValue? (Nat.digitChar d) = some d := by decide
  exact hall d h

theorem tokensFrom_controlEscape (h : c.toNat < 32) :
    tokensFrom (.string seen)
        ('\\' :: 'u' :: '0' :: '0' :: Nat.digitChar (c.toNat / 16) ::
          Nat.digitChar (c.toNat % 16) :: rest) =
      tokensFrom (.string (c :: seen)) rest := by
  have hmark : step (.string seen) '\\' = ([], .escape seen) := rfl
  have hcode : step (.escape seen) 'u' = ([], .hex seen none 0 4) := rfl
  have hfirst : step (.hex seen none 0 4) '0' = ([], .hex seen none 0 3) := rfl
  have hsecond : step (.hex seen none 0 3) '0' = ([], .hex seen none 0 2) := rfl
  have hthird : step (.hex seen none 0 2) (Nat.digitChar (c.toNat / 16)) =
      ([], .hex seen none (c.toNat / 16) 1) := by
    simp [step, hexValue?_digitChar (show c.toNat / 16 < 16 by omega)]
  have hlast : step (.hex seen none (c.toNat / 16) 1) (Nat.digitChar (c.toNat % 16)) =
      ([], .string (c :: seen)) := by
    have hvalue : c.toNat / 16 * 16 + c.toNat % 16 = c.toNat := by omega
    have hhigh : ¬(0xD800 ≤ c.toNat ∧ c.toNat ≤ 0xDBFF) := by omega
    have hlow : ¬(0xDC00 ≤ c.toNat ∧ c.toNat ≤ 0xDFFF) := by omega
    simp only [step, hexValue?_digitChar (show c.toNat % 16 < 16 by omega), hvalue, finishHex,
      if_neg hhigh, if_neg hlow, Char.ofNat_toNat, Nat.le_refl, if_true]
  rw [tokensFrom_cons hmark, tokensFrom_cons hcode, tokensFrom_cons hfirst,
    tokensFrom_cons hsecond, tokensFrom_cons hthird, tokensFrom_cons hlast]
  simp only [List.nil_append]

/-- A character that stands for itself or is escaped is read as itself. -/
theorem tokensFrom_escapedChar (c : Char) (seen rest : List Char) :
    tokensFrom (.string seen) (escapedChar c ++ rest) = tokensFrom (.string (c :: seen)) rest := by
  have hcontrol : ∀ {n : Nat}, c.toNat = n → c = Char.ofNat n := by
    intro n hn
    rw [← hn, Char.ofNat_toNat]
  unfold escapedChar
  -- The forms are taken in the order in which the writer tries them.
  by_cases hquote : c = '"'
  · subst hquote
    exact tokensFrom_shortEscape rfl
  by_cases hbackslash : c = '\\'
  · subst hbackslash
    exact tokensFrom_shortEscape rfl
  by_cases hbackspace : c.toNat = 8
  · obtain rfl := hcontrol hbackspace
    exact tokensFrom_shortEscape rfl
  by_cases hfeed : c.toNat = 12
  · obtain rfl := hcontrol hfeed
    exact tokensFrom_shortEscape rfl
  by_cases hline : c = '\n'
  · subst hline
    exact tokensFrom_shortEscape rfl
  by_cases hreturn : c = '\r'
  · subst hreturn
    exact tokensFrom_shortEscape rfl
  by_cases htab : c = '\t'
  · subst htab
    exact tokensFrom_shortEscape rfl
  simp only [hquote, hbackslash, hbackspace, hfeed, hline, hreturn, htab, if_false]
  by_cases hlow : c.toNat < 32
  · rw [if_pos hlow]
    exact tokensFrom_controlEscape hlow
  · have hplain : step (.string seen) c = ([], .string (c :: seen)) := by
      simp [step, hquote, hbackslash, hlow]
    rw [if_neg hlow, List.singleton_append, tokensFrom_cons hplain, List.nil_append]

theorem tokensFrom_flatMap_escapedChar (cs seen rest : List Char) :
    tokensFrom (.string seen) (cs.flatMap escapedChar ++ rest) =
      tokensFrom (.string (cs.reverse ++ seen)) rest := by
  induction cs generalizing seen with
  | nil => rfl
  | cons c cs ih =>
    rw [List.flatMap_cons, List.append_assoc, tokensFrom_escapedChar, ih, List.reverse_cons,
      List.append_assoc, List.singleton_append]

theorem tokensFrom_writeString (s : String) (rest : List Char) :
    tokensFrom .between (writeString s ++ rest) = .str s :: tokensFrom .between rest := by
  have hopen : step .between '"' = ([], .string []) := rfl
  have hclose : step (.string (s.toList.reverse ++ [])) '"' = ([.str s], .between) := by
    simp [step, String.ofList_toList]
  rw [writeString, List.cons_append, List.cons_append, List.append_assoc, tokensFrom_cons hopen,
    tokensFrom_flatMap_escapedChar, List.singleton_append, tokensFrom_cons hclose]
  rfl

/-! ## Numbers in a text -/

/-- The text ends or goes on with what may follow a value in a container. -/
def EndsValue (rest : List Char) : Prop :=
  ∀ c ∈ rest.head?, c = ',' ∨ c = ']' ∨ c = '\x7d'

theorem tokensFrom_number {place : NumberPlace} {p : NumberParts} {n : JsonNumber}
    (hplace : place.mayEnd = true) (htoken : p.token = .num n) (hrest : EndsValue rest) :
    tokensFrom (.number place p) rest = .num n :: tokensFrom .between rest := by
  cases rest with
  | nil => simp [tokensFrom, finish, hplace, htoken]
  | cons c cs =>
    -- What follows the number does not continue it and starts the next token.
    have hstep : step (.number place p) c = (.num n :: (startToken c).1, (startToken c).2) := by
      have hends : continueNumber place p c = none ∧
          (place == .zero && '0' ≤ c && c ≤ '9') = false := by
        rcases hrest c rfl with rfl | rfl | rfl
        · cases place <;> exact ⟨rfl, rfl⟩
        · cases place <;> exact ⟨rfl, rfl⟩
        · cases place <;> exact ⟨rfl, rfl⟩
      simp only [step, hends.1, hends.2, hplace, htoken]
      rfl
    have hnext : step .between c = ((startToken c).1, (startToken c).2) := rfl
    rw [tokensFrom_cons hstep, tokensFrom_cons hnext, List.cons_append]

def digitValue (c : Char) : Nat :=
  c.toNat - 48

/-- The parts of an integer literal with these digits. -/
def wholeParts (negative : Bool) (digits : List Char) : NumberParts :=
  { NumberParts.empty negative with whole := (digits.map digitValue).reverse }

theorem tokensFrom_digits {negative : Bool} {before digits : List Char}
    (h : ∀ c ∈ digits, c.isDigit = true) :
    tokensFrom (.number .whole (wholeParts negative before)) (digits ++ rest) =
      tokensFrom (.number .whole (wholeParts negative (before ++ digits))) rest := by
  induction digits generalizing before with
  | nil => rw [List.append_nil, List.nil_append]
  | cons c digits ih =>
    rcases List.forall_mem_cons.1 h with ⟨hc, hdigits⟩
    have hdigit : ('0' ≤ c && c ≤ '9') = true := hc
    have hstep : step (.number .whole (wholeParts negative before)) c =
        ([], .number .whole (wholeParts negative (before ++ [c]))) := by
      simp [step, continueNumber, hdigit, wholeParts, digitValue]
    rw [List.cons_append, tokensFrom_cons hstep, ih hdigits, List.nil_append, List.append_assoc,
      List.singleton_append]

theorem startToken_digit (h : c.isDigit = true) (hzero : c ≠ '0') :
    startToken c = ([], .number .whole (wholeParts false [c])) := by
  have hrange := Number.toNat_of_isDigit h
  have hne : c.toNat ≠ 48 := fun hcode => hzero (Char.toNat_inj.1 hcode)
  have hcode : '1' ≤ c ∧ c ≤ '9' := by
    simp only [Char.le_def, UInt32.le_iff_toNat_le]
    exact ⟨show 49 ≤ c.toNat by omega, show c.toNat ≤ 57 by omega⟩
  -- A digit is none of the characters that start another token.
  have hother : ∀ d : Char, d.toNat < 48 ∨ 57 < d.toNat → c ≠ d := by
    rintro d hd rfl
    omega
  have hspace : isSpace c = false := by
    simp [isSpace, hother]
  simp [startToken, hspace, hother, hzero, hcode, wholeParts, digitValue]

/-- The first digit of an integer literal that is not zero leads to its other digits, with a sign
before it or without. -/
theorem tokensFrom_digitsOf (negative : Bool) {m : Nat} (h : 0 < m) :
    tokensFrom (if negative then .number .minus (.empty true) else .between)
        (Number.digitsOf m ++ rest) =
      tokensFrom (.number .whole (wholeParts negative (Number.digitsOf m))) rest := by
  have hdigits : ∀ c ∈ Number.digitsOf m, c.isDigit = true :=
    fun _ => Number.isDigit_of_mem_digitsOf
  have hzero : ∀ c ∈ (Number.digitsOf m).head?, c ≠ '0' := Number.head_digitsOf h
  cases hwritten : Number.digitsOf m with
  | nil => exact absurd hwritten (Number.isNumberText_digitsOf m).ne_nil
  | cons c digits =>
    rw [hwritten] at hdigits hzero
    rcases List.forall_mem_cons.1 hdigits with ⟨hc, hrest⟩
    have hdigit : ('0' ≤ c && c ≤ '9') = true := hc
    have hc0 : c ≠ '0' := hzero c rfl
    have hstep : step (if negative then .number .minus (.empty true) else .between) c =
        ([], .number .whole (wholeParts negative [c])) := by
      cases negative with
      | true => simp [step, continueNumber, hdigit, hc0, wholeParts, digitValue]
      | false => exact startToken_digit hc hc0
    rw [List.cons_append, tokensFrom_cons hstep, tokensFrom_digits hrest, List.nil_append,
      List.singleton_append]

/-- The digits of a number have that number as their value. -/
theorem magnitude_wholeParts (negative : Bool) (m : Nat) :
    (wholeParts negative (Number.digitsOf m)).whole.reverse.foldl (fun n d => n * 10 + d) 0 =
      m := by
  have hvalue : Nat.ofDigitChars 10 (Nat.toDigits 10 m) 0 = m := Nat.ofDigitChars_ten_toDigits
  rw [Nat.ofDigitChars_eq_foldl] at hvalue
  simpa [wholeParts, List.foldl_map, digitValue, Nat.mul_comm, Number.digitsOf] using hvalue

theorem token_wholeParts {m : Nat} (h : m ≤ Number.maxUInt64) :
    (wholeParts false (Number.digitsOf m)).token = .num (.int m) := by
  simp only [NumberParts.token, magnitude_wholeParts, if_pos h]
  rfl

theorem token_wholeParts_negative {m : Nat} (h : 0 < m ∧ m ≤ Nat.pow 2 63) :
    (wholeParts true (Number.digitsOf m)).token = .num (.int (-(m : Int))) := by
  simp only [NumberParts.token, magnitude_wholeParts, if_pos h]
  rfl

theorem tokensFrom_signedDigits {n : Int} (h : Number.minInt64 ≤ n ∧ n ≤ Number.maxUInt64)
    (hrest : EndsValue rest) :
    tokensFrom .between (Number.signedDigits n ++ rest) =
      .num (.int n) :: tokensFrom .between rest := by
  have hbounds : -0x8000000000000000 ≤ n ∧ n ≤ 0xffffffffffffffff := h
  unfold Number.signedDigits
  by_cases hnegative : n < 0
  · have hsign : step .between '-' = ([], .number .minus (.empty true)) := rfl
    have hfits : 0 < n.natAbs ∧ n.natAbs ≤ Nat.pow 2 63 := by
      have hpow : Nat.pow 2 63 = 0x8000000000000000 := by decide
      omega
    have htoken : (wholeParts true (Number.digitsOf n.natAbs)).token = .num (.int n) := by
      have hvalue : -(n.natAbs : Int) = n := by omega
      rw [token_wholeParts_negative hfits, hvalue]
    rw [if_pos hnegative, List.cons_append, tokensFrom_cons hsign, List.nil_append]
    exact (tokensFrom_digitsOf true hfits.1).trans (tokensFrom_number rfl htoken hrest)
  · have htoken : (wholeParts false (Number.digitsOf n.natAbs)).token = .num (.int n) := by
      have hmax : Number.maxUInt64 = 0xffffffffffffffff := rfl
      have hvalue : (n.natAbs : Int) = n := by omega
      rw [token_wholeParts (by omega), hvalue]
    rw [if_neg hnegative]
    by_cases hn : n.natAbs = 0
    -- Zero is the only integer that is written with a zero in front.
    · have hstep : step .between '0' = ([], .number .zero (wholeParts false ['0'])) := rfl
      have hwritten : Number.digitsOf n.natAbs = ['0'] := by rw [hn]; rfl
      rw [hwritten] at htoken ⊢
      rw [List.singleton_append, tokensFrom_cons hstep, List.nil_append]
      exact tokensFrom_number rfl htoken hrest
    · have hpositive : 0 < n.natAbs := Nat.pos_of_ne_zero hn
      exact (tokensFrom_digitsOf false hpositive).trans (tokensFrom_number rfl htoken hrest)

/-! ## The tokens of a compact text -/

theorem EndsValue.cons (h : c = ',' ∨ c = ']' ∨ c = '\x7d') : EndsValue (c :: cs) := by
  intro d hd
  obtain rfl : c = d := Option.some.inj hd
  exact h

theorem endsValue_writeItems (items : List Json) (rest : List Char) :
    EndsValue (writeItems items ++ rest) := by
  cases items with
  | nil => exact .cons (by simp)
  | cons v items => exact .cons (by simp)

theorem endsValue_writeMembers (members : Members) (rest : List Char) :
    EndsValue (writeMembers members ++ rest) := by
  cases members with
  | nil => exact .cons (by simp)
  | cons m members => exact .cons (by simp)

/-- The text of a value is taken apart into its tokens, whatever text follows it. -/
def Scans (v : Json) : Prop :=
  ∀ rest, EndsValue rest →
    tokensFrom .between (v.write ++ rest) = writtenTokens v ++ tokensFrom .between rest

theorem tokensFrom_writeItems {items : List Json} (h : ∀ v ∈ items, Scans v) (rest : List Char) :
    tokensFrom .between (writeItems items ++ rest) =
      itemTokens items ++ tokensFrom .between rest := by
  induction items with
  | nil => rfl
  | cons v items ih =>
    rcases List.forall_mem_cons.1 h with ⟨hv, hitems⟩
    have hcomma : step .between ',' = ([.comma], .between) := rfl
    rw [writeItems, List.cons_append, List.append_assoc, tokensFrom_cons hcomma,
      hv _ (endsValue_writeItems items rest), ih hitems, itemTokens]
    simp only [List.nil_append, List.cons_append, List.append_assoc]

theorem tokensFrom_member {k : String} {v : Json} (hv : Scans v) (hrest : EndsValue rest) :
    tokensFrom .between (writeString k ++ ':' :: (v.write ++ rest)) =
      .str k :: .colon :: (writtenTokens v ++ tokensFrom .between rest) := by
  have hcolon : step .between ':' = ([.colon], .between) := rfl
  rw [tokensFrom_writeString, tokensFrom_cons hcolon, hv rest hrest, List.singleton_append]

theorem tokensFrom_writeMembers {members : Members} (h : ∀ m ∈ members, Scans m.2)
    (rest : List Char) :
    tokensFrom .between (writeMembers members ++ rest) =
      memberTokens members ++ tokensFrom .between rest := by
  induction members with
  | nil => rfl
  | cons m members ih =>
    rcases m with ⟨k, v⟩
    rcases List.forall_mem_cons.1 h with ⟨hv, hmembers⟩
    have hcomma : step .between ',' = ([.comma], .between) := rfl
    have hmember := tokensFrom_member (k := k) hv (endsValue_writeMembers members rest)
    rw [writeMembers, memberTokens]
    simp only [List.cons_append, List.append_assoc] at hmember ⊢
    rw [tokensFrom_cons hcomma, hmember, ih hmembers]
    rfl

theorem IsPlain.scans {levels : Nat} {v : Json} (h : IsPlain levels v) : Scans v := by
  induction h with
  | null => exact fun rest _ => rfl
  | bool b =>
    cases b with
    | true => exact fun rest _ => rfl
    | false => exact fun rest _ => rfl
  | int h => exact fun rest hrest => tokensFrom_signedDigits h hrest
  | str s => exact fun rest _ => tokensFrom_writeString s rest
  -- The bracket is one step; then the first value is scanned, up to the comma or bracket after it,
  -- and the rest by the lemma about items.
  | @arr levels items _ ih =>
    intro rest _
    cases items with
    | nil => rfl
    | cons v items =>
      rcases List.forall_mem_cons.1 ih with ⟨hv, hitems⟩
      have hopen : step .between '[' = ([.openArray], .between) := rfl
      rw [write, List.cons_append, List.append_assoc, tokensFrom_cons hopen,
        hv _ (endsValue_writeItems items rest), tokensFrom_writeItems hitems, writtenTokens]
      simp only [List.nil_append, List.cons_append, List.append_assoc]
  | @obj levels members _ ih =>
    intro rest _
    cases members with
    | nil => rfl
    | cons m members =>
      rcases m with ⟨k, v⟩
      rcases List.forall_mem_cons.1 ih with ⟨hv, hmembers⟩
      have hopen : step .between '\x7b' = ([.openObject], .between) := rfl
      have hmember := tokensFrom_member (k := k) hv (endsValue_writeMembers members rest)
      rw [write, writtenTokens]
      simp only [List.cons_append, List.append_assoc] at hmember ⊢
      rw [tokensFrom_cons hopen, hmember, tokensFrom_writeMembers hmembers]
      rfl

end BearerAuth.Json
