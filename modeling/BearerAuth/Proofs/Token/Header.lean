import BearerAuth.Proofs.Json.Field
import BearerAuth.Proofs.Result
import BearerAuth.Token.Header

/-!
# What the header of a token says

A token is put together from its parts with dots, and in only one way. Its header is the JSON object
in its first part; the algorithm of the header is the one that every `alg` member of that object
names, so an object that names another one has no header.
-/

namespace BearerAuth

/-! ## Parts -/

namespace CompactToken

theorem splitLast?_eq_none_iff {cs : List Char} : splitLast? cs = none ↔ '.' ∉ cs := by
  induction cs with
  | nil => simp [splitLast?]
  | cons c cs ih =>
    unfold splitLast?
    cases h : splitLast? cs with
    | none =>
      have hcs : '.' ∉ cs := ih.1 h
      by_cases hc : c = '.'
      · simp [hc]
      · have hne : '.' ≠ c := fun e => hc e.symm
        simp [hc, hne, hcs]
    -- A dot further on is in the whole list as well.
    | some parts =>
      have hcs : '.' ∈ cs := Decidable.not_not.1 fun hno => by simp [ih.2 hno] at h
      simp [hcs]

theorem splitLast?_append {before after : List Char} (h : '.' ∉ after) :
    splitLast? (before ++ '.' :: after) = some (before, after) := by
  induction before with
  | nil => simp [splitLast?, splitLast?_eq_none_iff.2 h]
  | cons c before ih => simp [splitLast?, ih]

theorem eq_append_of_splitLast? {cs before after : List Char}
    (h : splitLast? cs = some (before, after)) : cs = before ++ '.' :: after ∧ '.' ∉ after := by
  induction cs generalizing before with
  | nil => simp [splitLast?] at h
  | cons c cs ih =>
    unfold splitLast? at h
    cases hcs : splitLast? cs with
    -- Without a dot further on, the head has to be the dot that is split at.
    | none =>
      by_cases hc : c = '.'
      · have hends : [] = before ∧ cs = after := by simpa [hcs, hc] using h
        rcases hends with ⟨rfl, rfl⟩
        exact ⟨by simp [hc], splitLast?_eq_none_iff.1 hcs⟩
      · simp [hcs, hc] at h
    | some parts =>
      rcases parts with ⟨before', after'⟩
      have hends : c :: before' = before ∧ after' = after := by simpa [hcs] using h
      rcases hends with ⟨rfl, rfl⟩
      rcases ih hcs with ⟨hsplit, hafter⟩
      exact ⟨by simp [hsplit], hafter⟩

/-- A list is split at its last dot, so that none is left after it. -/
theorem splitLast?_eq_some_iff {cs before after : List Char} :
    splitLast? cs = some (before, after) ↔ cs = before ++ '.' :: after ∧ '.' ∉ after := by
  constructor
  · exact eq_append_of_splitLast?
  · rintro ⟨rfl, h⟩
    exact splitLast?_append h

/-- The text of a token with these parts. -/
def chars (t : CompactToken) : List Char :=
  t.header ++ '.' :: (t.payload ++ '.' :: t.signature)

/-- The parts of a token are the only ones that give its text, with no dot in payload and
signature. -/
theorem ofChars?_eq_some_iff {cs : List Char} {t : CompactToken} :
    ofChars? cs = some t ↔ cs = t.chars ∧ '.' ∉ t.payload ∧ '.' ∉ t.signature := by
  rcases t with ⟨header, payload, signature⟩
  unfold ofChars? chars
  constructor
  · intro h
    cases hsigned : splitLast? cs with
    | none => simp [hsigned] at h
    | some signed =>
      rcases signed with ⟨signed, signature'⟩
      simp only [hsigned, Option.map_eq_some_iff, Prod.exists, CompactToken.mk.injEq] at h
      rcases h with ⟨header', payload', hpayload, rfl, rfl, rfl⟩
      rcases splitLast?_eq_some_iff.1 hsigned with ⟨rfl, hsig⟩
      rcases splitLast?_eq_some_iff.1 hpayload with ⟨rfl, hpay⟩
      simp [hsig, hpay]
  · rintro ⟨rfl, hpay, hsig⟩
    have hsigned : splitLast? (header ++ '.' :: (payload ++ '.' :: signature)) =
        some (header ++ '.' :: payload, signature) :=
      splitLast?_eq_some_iff.2 ⟨by simp, hsig⟩
    have hpayload : splitLast? (header ++ '.' :: payload) = some (header, payload) :=
      splitLast?_eq_some_iff.2 ⟨rfl, hpay⟩
    simp [hsigned, hpayload]

end CompactToken

/-! ## The header -/

namespace TokenHeader

variable {token : String} {parts : CompactToken} {header : TokenHeader}

theorem ofPart_eq_ok_iff {part : List Char} :
    ofPart part = .ok header ↔
      ∃ v, CompactToken.partJson part = .ok v ∧ ofJson? v = some header := by
  unfold ofPart
  rw [bind_eq_ok_iff]
  refine exists_congr fun v => and_congr_right fun _ => ?_
  cases ofJson? v with
  | none => simp
  | some h => simp

theorem ofToken_eq_ok_iff :
    ofToken token = .ok (parts, header) ↔
      CompactToken.ofChars? token.toList = some parts ∧
        ∃ v, CompactToken.partJson parts.header = .ok v ∧ ofJson? v = some header := by
  unfold ofToken
  cases CompactToken.ofChars? token.toList with
  | none => simp
  | some parts' =>
    simp only [map_eq_ok_iff, ofPart_eq_ok_iff, Prod.mk.injEq, Option.some.injEq]
    constructor
    · rintro ⟨header', hjson, rfl, rfl⟩
      exact ⟨rfl, hjson⟩
    · rintro ⟨rfl, hjson⟩
      exact ⟨header, hjson, rfl, rfl⟩

/-- Every `alg` member of an object with a header names the algorithm of that header. -/
theorem name?_of_mem {members : Json.Members} {v : Json}
    (h : ofJson? (.obj members) = some header) (hmem : ("alg", v) ∈ members) :
    v.name? = some header.algorithm.name := by
  simp only [ofJson?, Option.bind_eq_bind, Option.bind_eq_some_iff] at h
  rcases h with ⟨algorithm, halg, kid, _, h⟩
  -- An object that cannot be read has no header, whatever its algorithm.
  have hheader : header.algorithm = algorithm := by
    cases hreadable : isReadable members with
    | false => simp [hreadable] at h
    | true =>
      have heq : (⟨algorithm, kid⟩ : TokenHeader) = header := by simpa [hreadable] using h
      rw [← heq]
  have hread : algorithm? v = some algorithm := Json.Members.read_of_mem_of_required? halg hmem
  rcases Option.bind_eq_some_iff.1 hread with ⟨name, hname, hof⟩
  have hsame : algorithm.name = name := by simpa using List.find?_some hof
  rw [hname, hheader, hsame]

end TokenHeader

end BearerAuth
