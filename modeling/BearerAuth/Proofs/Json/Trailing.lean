import BearerAuth.Proofs.Json.Reading
import Mathlib.Data.List.Induction

/-!
# What may follow an object

The brace that ends an object ends its last token, so the tokens of a longer text are those of the
object and then those of what follows it. Only blanks have no tokens, so a text that is read as an
object is read as the same object with blanks after it, and as nothing with any other text after it.
-/

namespace BearerAuth.Json

variable {mode : Mode} {c : Char} {cs ds : List Char} {v : Json} {ts : List Token}
  {place : Place} {stack : List Frame} {members : Members}

/-! ## What a character leaves behind -/

/-- A result of a step that shows in the tokens: a token, a fault before anything is ignored, or
something that is begun. -/
def LeavesTrace (r : List Token × Mode) : Prop :=
  (r.2 = .halted → .fault ∈ r.1) ∧ (r.2 = .between → r.1 ≠ [])

theorem leavesTrace_faulty : LeavesTrace faulty := by
  simp [LeavesTrace, faulty]

theorem leavesTrace_ite {p : Prop} [Decidable p] {r r' : List Token × Mode} (h : LeavesTrace r)
    (h' : LeavesTrace r') : LeavesTrace (if p then r else r') :=
  iteInduction (fun _ => h) fun _ => h'

theorem leavesTrace_startToken (hc : isSpace c = false) : LeavesTrace (startToken c) := by
  have hspace : ¬isSpace c = true := by simp [hc]
  rw [startToken, if_neg hspace]
  repeat' apply leavesTrace_ite
  all_goals simp [LeavesTrace, faulty]

theorem leavesTrace_cons_startToken (t : Token) (c : Char) :
    LeavesTrace (t :: (startToken c).1, (startToken c).2) := by
  refine ⟨?_, by simp⟩
  intro hhalted
  cases hc : isSpace c with
  | true => simp [startToken, hc] at hhalted
  | false => exact List.mem_cons_of_mem t ((leavesTrace_startToken hc).1 hhalted)

theorem leavesTrace_finishHex (seen : List Char) (high : Option Nat) (value : Nat) :
    LeavesTrace (finishHex seen high value) := by
  cases high with
  | none =>
    refine leavesTrace_ite ?_ (leavesTrace_ite leavesTrace_faulty ?_)
    · simp [LeavesTrace]
    · simp [LeavesTrace]
  | some h => exact leavesTrace_ite (by simp [LeavesTrace]) leavesTrace_faulty

/-- What becomes of a number literal: a number or a fault. -/
def Token.OfLiteral (t : Token) : Prop :=
  (∃ n, t = .num n) ∨ t = .fault

theorem Token.ofLiteral_ite {p : Prop} [Decidable p] {t t' : Token} (h : t.OfLiteral)
    (h' : t'.OfLiteral) : (if p then t else t').OfLiteral :=
  iteInduction (fun _ => h) fun _ => h'

theorem NumberParts.token_ofLiteral (p : NumberParts) : p.token.OfLiteral := by
  have hint : ∀ n, (Token.num (.int n)).OfLiteral := fun n => .inl ⟨.int n, rfl⟩
  unfold NumberParts.token
  cases p.double? with
  | none =>
    have hdouble : Token.fault.OfLiteral := .inr rfl
    exact Token.ofLiteral_ite hdouble (Token.ofLiteral_ite
      (Token.ofLiteral_ite (hint _) hdouble) (Token.ofLiteral_ite (hint _) hdouble))
  | some x =>
    have hdouble : (Token.num (.double x)).OfLiteral := .inl ⟨.double x, rfl⟩
    exact Token.ofLiteral_ite hdouble (Token.ofLiteral_ite
      (Token.ofLiteral_ite (hint _) hdouble) (Token.ofLiteral_ite (hint _) hdouble))

/-- Nothing but a blank between tokens goes without a trace, as long as there was no fault. -/
theorem leavesTrace_step (hmode : mode ≠ .halted) (hblank : mode = .between → isSpace c = false) :
    LeavesTrace (step mode c) := by
  cases mode with
  | between => exact leavesTrace_startToken (hblank rfl)
  | name left token =>
    cases left with
    | nil => exact leavesTrace_faulty
    | cons d left =>
      cases left with
      | nil => exact leavesTrace_ite (by simp [LeavesTrace]) leavesTrace_faulty
      | cons e left => exact leavesTrace_ite (by simp [LeavesTrace]) leavesTrace_faulty
  | number place parts =>
    dsimp only [step]
    cases continueNumber place parts c with
    | some next => simp [LeavesTrace]
    | none =>
      -- The character that ends a number already belongs to what comes next.
      refine leavesTrace_ite ?_ leavesTrace_faulty
      rcases parts.token_ofLiteral with ⟨n, hnumber⟩ | hfault
      · rw [hnumber]
        exact leavesTrace_cons_startToken _ c
      · rw [hfault]
        exact leavesTrace_faulty
  | string seen =>
    refine leavesTrace_ite ?_ (leavesTrace_ite ?_ (leavesTrace_ite leavesTrace_faulty ?_))
    all_goals simp [LeavesTrace]
  | escape seen =>
    dsimp only [step]
    cases shortEscape? c with
    | none => exact leavesTrace_ite (by simp [LeavesTrace]) leavesTrace_faulty
    | some e => simp [LeavesTrace]
  | hex seen high value left =>
    dsimp only [step]
    cases Text.hexValue? c with
    | none => exact leavesTrace_faulty
    | some d => exact leavesTrace_ite (leavesTrace_finishHex ..) (by simp [LeavesTrace])
  | partner seen high => exact leavesTrace_ite (by simp [LeavesTrace]) leavesTrace_faulty
  | partnerMark seen high => exact leavesTrace_ite (by simp [LeavesTrace]) leavesTrace_faulty
  | halted => exact absurd rfl hmode

theorem step_between_of_isSpace (h : isSpace c = true) : step .between c = ([], .between) := by
  simp [step, startToken, h]

/-- The machine goes on after every character that is not a fault. -/
theorem ne_halted_of_step (hmode : mode ≠ .halted) (hfault : .fault ∉ (step mode c).1) :
    (step mode c).2 ≠ .halted := by
  by_cases hblank : mode = .between ∧ isSpace c = true
  · rw [hblank.1, step_between_of_isSpace hblank.2]
    simp
  · have htrace : LeavesTrace (step mode c) :=
      leavesTrace_step hmode fun h => by simpa [h] using hblank
    exact fun hhalted => hfault (htrace.1 hhalted)

theorem tokensFrom_step (mode : Mode) (c : Char) (cs : List Char) :
    tokensFrom mode (c :: cs) = (step mode c).1 ++ tokensFrom (step mode c).2 cs :=
  rfl

/-- Only blanks have no tokens. -/
theorem eq_between_of_tokensFrom (hmode : mode ≠ .halted) (h : tokensFrom mode cs = []) :
    mode = .between ∧ ∀ c ∈ cs, isSpace c = true := by
  induction cs generalizing mode with
  | nil =>
    -- The end of a text completes whatever is begun, or is a fault itself.
    cases mode with
    | between => exact ⟨rfl, List.forall_mem_nil _⟩
    | halted => exact absurd rfl hmode
    | number place parts =>
      rw [tokensFrom, finish] at h
      cases hplace : place.mayEnd with
      | true => simp [hplace] at h
      | false => simp [hplace] at h
    | _ => cases h
  | cons c cs ih =>
    rw [tokensFrom_step, List.append_eq_nil_iff] at h
    rcases h with ⟨hout, hrest⟩
    have hgoes : (step mode c).2 ≠ .halted := ne_halted_of_step hmode (by simp [hout])
    rcases ih hgoes hrest with ⟨hnext, hcs⟩
    by_cases hblank : mode = .between → isSpace c = false
    · exact absurd hout ((leavesTrace_step hmode hblank).2 hnext)
    · rw [Classical.not_imp, Bool.not_eq_false] at hblank
      exact ⟨hblank.1, List.forall_mem_cons.2 ⟨hblank.2, hcs⟩⟩

theorem tokens_eq_nil_iff : tokens ds = [] ↔ ∀ c ∈ ds, isSpace c = true := by
  constructor
  · intro h
    exact (eq_between_of_tokensFrom (by simp) h).2
  · intro h
    induction ds with
    | nil => rfl
    | cons c ds ih =>
      rcases List.forall_mem_cons.1 h with ⟨hc, hds⟩
      rw [tokens, tokensFrom_cons (step_between_of_isSpace hc)]
      exact ih hds

/-! ## One text after another -/

/-- A text without a fault that does not end in a number is taken apart for itself. -/
theorem tokensFrom_append (hmode : mode ≠ .halted) (hfault : .fault ∉ tokensFrom mode cs)
    (hlast : ∀ n, (tokensFrom mode cs).getLast? ≠ some (.num n)) :
    tokensFrom mode (cs ++ ds) = tokensFrom mode cs ++ tokens ds := by
  induction cs generalizing mode with
  | nil =>
    -- Only a number goes on into the text that follows; anything else unfinished is a fault.
    cases mode with
    | between => rfl
    | halted => exact absurd rfl hmode
    | number place parts =>
      rw [tokensFrom, finish] at hfault hlast
      cases hplace : place.mayEnd with
      | false => simp [hplace] at hfault
      | true =>
        rcases parts.token_ofLiteral with ⟨n, hnumber⟩ | htoken
        · exact absurd (by simp [hplace, hnumber]) (hlast n)
        · simp [hplace, htoken] at hfault
    | _ => simp [tokensFrom, finish] at hfault
  | cons c cs ih =>
    rw [tokensFrom_step] at hfault hlast
    rw [List.mem_append, not_or] at hfault
    have hgoes : (step mode c).2 ≠ .halted := ne_halted_of_step hmode hfault.1
    have hends : ∀ n, (tokensFrom (step mode c).2 cs).getLast? ≠ some (.num n) := by
      intro n hn
      exact hlast n (by rw [List.getLast?_append, hn]; rfl)
    rw [List.cons_append, tokensFrom_step, tokensFrom_step, ih hgoes hfault.2 hends,
      List.append_assoc]

theorem advance_fault : advance place stack .fault = none := by
  cases place with
  | after v =>
    cases stack with
    | nil => rfl
    | cons f stack =>
      cases f with
      | array items => rfl
      | object members key => cases key with
        | none => rfl
        | some k => rfl
  | firstItem => exact Place.IsStart.advance_eq (.inr rfl) (by simp)
  | _ => cases stack with
    | nil => rfl
    | cons f stack => cases f with
      | _ => rfl

/-- No value is put together from a fault. -/
theorem fault_not_mem_of_parseFrom (h : parseFrom place stack ts = .ok v) : .fault ∉ ts := by
  induction ts generalizing place stack with
  | nil => exact List.not_mem_nil
  | cons t ts ih =>
    cases hadvance : advance place stack t with
    | none => exact absurd h (parseFrom_cons_of_none hadvance)
    | some next =>
      rw [parseFrom_cons hadvance] at h
      have ht : .fault ≠ t := by
        rintro rfl
        rw [advance_fault] at hadvance
        cases hadvance
      exact fun hmem => (List.mem_cons.1 hmem).elim ht (ih h)

theorem getLast?_writtenTokens_obj :
    (writtenTokens (.obj members)).getLast? = some .closeObject := by
  cases members using List.reverseRecOn with
  | nil => rfl
  | append_singleton members m => simp [writtenTokens_obj_concat, List.getLast?_cons]

/-- An object followed by blanks is the same object; nothing else may follow it. -/
theorem parse?_append_of_obj (h : parse? cs = some (.obj members)) (ds : List Char) :
    parse? (cs ++ ds) = if ds.all isSpace then some (.obj members) else none := by
  rcases parse?_eq_some_iff.1 h with ⟨htokens, hnests⟩
  have hfault : .fault ∉ tokens cs :=
    fault_not_mem_of_parseFrom (toOption_eq_some_iff.1 h)
  have hlast : ∀ n, (tokens cs).getLast? ≠ some (.num n) := by
    simp [htokens, getLast?_writtenTokens_obj]
  have happend : tokens (cs ++ ds) = writtenTokens (.obj members) ++ tokens ds := by
    rw [← htokens]
    exact tokensFrom_append (by simp) hfault hlast
  have hrun : parse (cs ++ ds) = parseFrom (.after (.obj members)) [] (tokens ds) := by
    rw [parse, happend]
    exact hnests.assembles .value [] (tokens ds) (.inl rfl) (by simp)
  rw [parse?, hrun]
  by_cases hblank : ds.all isSpace = true
  · rw [if_pos hblank, tokens_eq_nil_iff.2 (List.all_eq_true.1 hblank)]
    rfl
  · rw [if_neg hblank]
    cases htrailing : tokens ds with
    | nil => exact absurd (List.all_eq_true.2 (tokens_eq_nil_iff.1 htrailing)) hblank
    | cons t ts => rfl

end BearerAuth.Json
