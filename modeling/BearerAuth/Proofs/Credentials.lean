import BearerAuth.Credentials
import BearerAuth.Proofs.Result

/-!
# Which headers carry a token

The first header for credentials decides. A token is taken from it unchanged when all its bytes are
plain and the scheme stands in front; otherwise the credentials are missing or malformed. The three
cases are told apart here without regard to the order of the checks.
-/

namespace BearerAuth.Credentials

variable {headers : List Header} {value bytes : List UInt8} {b : UInt8} {s : String}
  {t : BearerToken} {e : AuthError}

/-! ## Plain bytes and their characters -/

/-- A byte that may stand in credentials: printable ASCII or a tab. -/
def IsPlain (b : UInt8) : Prop :=
  b = 0x09 ∨ 0x20 ≤ b ∧ b ≤ 0x7E

theorem isVisible_iff : isVisible b = true ↔ IsPlain b := by
  simp [isVisible, IsPlain, or_comm]

theorem IsPlain.toNat_lt (h : IsPlain b) : b.toNat < 0x80 := by
  rcases h with rfl | ⟨_, hhigh⟩
  · decide
  · have := UInt8.le_iff_toNat_le.1 hhigh
    simp at this
    omega

/-- A plain byte is the character that is written as this byte. -/
theorem IsPlain.encodeChar_eq (h : IsPlain b) :
    Text.Utf8.encodeChar (Char.ofNat b.toNat) = [b] := by
  have hlt := h.toNat_lt
  simp [Text.Utf8.encodeChar, toNat_asciiChar, hlt]

/-- Plain bytes are written as they were read. -/
theorem encodeChars_asciiChars (h : ∀ b ∈ bytes, IsPlain b) :
    Text.Utf8.encodeChars (asciiChars bytes) = bytes := by
  induction bytes with
  | nil => rfl
  | cons b bytes ih =>
    rcases List.forall_mem_cons.1 h with ⟨hb, hbytes⟩
    calc
      Text.Utf8.encodeChars (asciiChars (b :: bytes))
          = Text.Utf8.encodeChar (Char.ofNat b.toNat) ++
              Text.Utf8.encodeChars (asciiChars bytes) := by
            simp [asciiChars, Text.Utf8.encodeChars]
      _ = b :: bytes := by rw [hb.encodeChar_eq, ih hbytes, List.singleton_append]

/-- A character that is written in plain bytes is written as one byte. -/
theorem exists_encodeChar_eq {c : Char} (h : ∀ b ∈ Text.Utf8.encodeChar c, IsPlain b) :
    ∃ b, Text.Utf8.encodeChar c = [b] ∧ Char.ofNat b.toNat = c := by
  by_cases hc : c.toNat < 0x80
  · refine ⟨UInt8.ofNat c.toNat, by simp [Text.Utf8.encodeChar, hc], ?_⟩
    have hmod : c.toNat % 256 = c.toNat := Nat.mod_eq_of_lt (by omega)
    simp [hmod]
  -- Every other character ends with a byte beyond ASCII.
  · have hlast : UInt8.ofNat (0x80 + c.toNat % 64) ∈ Text.Utf8.encodeChar c := by
      unfold Text.Utf8.encodeChar
      simp only [hc, if_false]
      split
      · simp
      · split
        · simp
        · simp
    have hplain := (h _ hlast).toNat_lt
    simp at hplain
    omega

/-- A text that is written in plain bytes is read back from them. -/
theorem asciiChars_encodeChars {cs : List Char} (h : ∀ b ∈ Text.Utf8.encodeChars cs, IsPlain b) :
    asciiChars (Text.Utf8.encodeChars cs) = cs := by
  induction cs with
  | nil => rfl
  | cons c cs ih =>
    have hsplit : Text.Utf8.encodeChars (c :: cs) =
        Text.Utf8.encodeChar c ++ Text.Utf8.encodeChars cs := rfl
    rw [hsplit] at h ⊢
    rcases List.forall_mem_append.1 h with ⟨hc, hcs⟩
    -- The first character is a byte of its own, and the rest is read back by induction.
    rcases exists_encodeChar_eq hc with ⟨b, hb, rfl⟩
    have hrest : asciiChars (Text.Utf8.encodeChars cs) = cs := ih hcs
    simp only [asciiChars] at hrest
    simp [asciiChars, hb, hrest]

theorem encodeChars_append (cs ds : List Char) :
    Text.Utf8.encodeChars (cs ++ ds) = Text.Utf8.encodeChars cs ++ Text.Utf8.encodeChars ds :=
  List.flatMap_append

/-! ## The scheme -/

/-- The bytes in front of a token. -/
def schemeBytes : List UInt8 :=
  Text.Utf8.encode "Bearer "

theorem encodeChars_scheme : Text.Utf8.encodeChars scheme = schemeBytes := by
  decide +kernel

theorem asciiChars_schemeBytes : asciiChars schemeBytes = scheme := by
  decide +kernel

theorem schemeBytes_ne_nil : schemeBytes ≠ [] := by
  decide +kernel

theorem scheme_prefix_iff (h : ∀ b ∈ value, IsPlain b) :
    scheme <+: asciiChars value ↔ schemeBytes <+: value := by
  constructor
  · rintro ⟨cs, hcs⟩
    refine ⟨Text.Utf8.encodeChars cs, ?_⟩
    calc
      schemeBytes ++ Text.Utf8.encodeChars cs
          = Text.Utf8.encodeChars (scheme ++ cs) := by rw [encodeChars_append, encodeChars_scheme]
      _ = value := by rw [hcs, encodeChars_asciiChars h]
  · rintro ⟨rest, rfl⟩
    refine ⟨asciiChars rest, ?_⟩
    calc
      scheme ++ asciiChars rest = asciiChars schemeBytes ++ asciiChars rest := by
        rw [asciiChars_schemeBytes]
      _ = asciiChars (schemeBytes ++ rest) := List.map_append.symm

theorem asciiChars_eq_scheme_append_iff (h : ∀ b ∈ value, IsPlain b) :
    asciiChars value = scheme ++ s.toList ↔ value = schemeBytes ++ Text.Utf8.encode s := by
  have hbytes : schemeBytes ++ Text.Utf8.encode s =
      Text.Utf8.encodeChars (scheme ++ s.toList) := by
    rw [encodeChars_append, encodeChars_scheme, Text.Utf8.encode]
  rw [hbytes]
  -- Writing undoes reading on plain bytes, and reading undoes writing where the bytes are plain.
  constructor
  · intro hchars
    rw [← hchars, encodeChars_asciiChars h]
  · intro hvalue
    rw [hvalue] at h ⊢
    exact asciiChars_encodeChars h

/-! ## The header that is looked at -/

/-- The first header for credentials has this value. -/
def Presents (headers : List Header) (value : List UInt8) : Prop :=
  ∃ before h after, headers = before ++ h :: after ∧ isCarrier h = true ∧ h.value = value ∧
    ∀ other ∈ before, isCarrier other = false

theorem presents_iff :
    Presents headers value ↔ ∃ h, headers.find? isCarrier = some h ∧ h.value = value := by
  simp only [Presents, List.find?_eq_some_iff_append, Bool.not_eq_true']
  constructor
  · rintro ⟨before, h, after, hsplit, hcarrier, hvalue, hbefore⟩
    exact ⟨h, ⟨hcarrier, before, after, hsplit, hbefore⟩, hvalue⟩
  · rintro ⟨h, ⟨hcarrier, before, after, hsplit, hbefore⟩, hvalue⟩
    exact ⟨before, h, after, hsplit, hcarrier, hvalue, hbefore⟩

/-- There is no header for credentials, or the first one is empty. -/
def Absent (headers : List Header) : Prop :=
  (∀ h ∈ headers, isCarrier h = false) ∨ Presents headers []

/-- The first header for credentials has a byte that may not stand in it, or does not start with the
scheme. -/
def Malformed (headers : List Header) : Prop :=
  ∃ value, Presents headers value ∧ value ≠ [] ∧
    ((∃ b ∈ value, ¬IsPlain b) ∨ ¬schemeBytes <+: value)

/-- The first header for credentials holds the scheme and then this token, byte for byte. -/
def Carries (headers : List Header) (t : BearerToken) : Prop :=
  ∃ value, Presents headers value ∧ (∀ b ∈ value, IsPlain b) ∧
    value = schemeBytes ++ Text.Utf8.encode t.text

/-! ## Taking the token -/

theorem textOfValue_eq_ok_iff :
    textOfValue value = .ok s ↔
      value ≠ [] ∧ (∀ b ∈ value, IsPlain b) ∧ s = String.ofList (asciiChars value) := by
  simp only [← isVisible_iff, ← List.all_eq_true]
  cases value with
  | nil => simp [textOfValue]
  | cons b value => cases hall : (b :: value).all isVisible with
    | true => simp [textOfValue, hall, eq_comm]
    | false => simp [textOfValue, hall]

theorem textOfValue_eq_error_iff :
    textOfValue value = .error e ↔
      value = [] ∧ e = missing ∨ value ≠ [] ∧ (∃ b ∈ value, ¬IsPlain b) ∧ e = invalid := by
  have hall : (∃ b ∈ value, ¬IsPlain b) ↔ value.all isVisible = false := by
    simp [← isVisible_iff]
  rw [hall]
  cases value with
  | nil => simp [textOfValue, eq_comm]
  | cons b value => cases hall : (b :: value).all isVisible with
    | true => simp [textOfValue, hall]
    | false => simp [textOfValue, hall, eq_comm]

theorem bearerToken_eq_ok_iff :
    bearerToken s = .ok t ↔ s.toList = scheme ++ t.text.toList := by
  unfold bearerToken
  rw [← Text.after?_eq_some_iff]
  cases Text.after? scheme s.toList with
  | none => simp
  | some cs =>
    rcases t with ⟨text⟩
    simp [String.ext_iff]

theorem bearerToken_eq_error_iff :
    bearerToken s = .error e ↔ ¬scheme <+: s.toList ∧ e = invalid := by
  unfold bearerToken
  cases hafter : Text.after? scheme s.toList with
  | some cs =>
    have hstart : scheme <+: s.toList := ⟨cs, (Text.after?_eq_some_iff.1 hafter).symm⟩
    simp [hstart]
  | none =>
    have hstart : ¬scheme <+: s.toList := by
      rintro ⟨cs, hcs⟩
      cases hafter.symm.trans (Text.after?_eq_some_iff.2 hcs.symm)
    simp [hstart, eq_comm]

theorem ofHeaders_eq_ok_iff :
    ofHeaders headers = .ok s ↔ ∃ value, Presents headers value ∧ textOfValue value = .ok s := by
  simp only [presents_iff]
  unfold ofHeaders
  cases headers.find? isCarrier with
  | none => simp
  | some h => simp

theorem ofHeaders_eq_error_iff :
    ofHeaders headers = .error e ↔
      (∀ h ∈ headers, isCarrier h = false) ∧ e = missing ∨
      ∃ value, Presents headers value ∧ textOfValue value = .error e := by
  have hnone : (∀ h ∈ headers, isCarrier h = false) ↔ headers.find? isCarrier = none := by
    simp
  simp only [hnone, presents_iff]
  unfold ofHeaders
  cases headers.find? isCarrier with
  | none => simp [eq_comm]
  | some h => simp

/-- A token is taken from a request exactly when its first header for credentials carries it. -/
theorem token_eq_ok_iff : token headers = .ok t ↔ Carries headers t := by
  simp only [token, bind_eq_ok_iff, ofHeaders_eq_ok_iff, textOfValue_eq_ok_iff,
    bearerToken_eq_ok_iff, Carries]
  constructor
  · rintro ⟨_, ⟨value, hpresents, _, hplain, rfl⟩, htoken⟩
    rw [String.toList_ofList] at htoken
    exact ⟨value, hpresents, hplain, (asciiChars_eq_scheme_append_iff hplain).1 htoken⟩
  · rintro ⟨value, hpresents, hplain, hvalue⟩
    have hne : value ≠ [] := by
      rintro rfl
      exact schemeBytes_ne_nil (List.append_eq_nil_iff.1 hvalue.symm).1
    refine ⟨_, ⟨value, hpresents, hne, hplain, rfl⟩, ?_⟩
    rw [String.toList_ofList]
    exact (asciiChars_eq_scheme_append_iff hplain).2 hvalue

/-- Otherwise the credentials are missing or malformed, and the error says which. -/
theorem token_eq_error_iff :
    token headers = .error e ↔
      Absent headers ∧ e = missing ∨ Malformed headers ∧ e = invalid := by
  simp only [token, bind_eq_error_iff, ofHeaders_eq_error_iff, ofHeaders_eq_ok_iff,
    textOfValue_eq_error_iff, textOfValue_eq_ok_iff, bearerToken_eq_error_iff, Absent, Malformed]
  constructor
  · rintro ((⟨hnone, rfl⟩ | ⟨value, hpresents, ⟨rfl, rfl⟩ | ⟨hne, hodd, rfl⟩⟩) |
      ⟨_, ⟨value, hpresents, hne, hplain, rfl⟩, hscheme, rfl⟩)
    · exact .inl ⟨.inl hnone, rfl⟩
    · exact .inl ⟨.inr hpresents, rfl⟩
    · exact .inr ⟨⟨value, hpresents, hne, .inl hodd⟩, rfl⟩
    · rw [String.toList_ofList, scheme_prefix_iff hplain] at hscheme
      exact .inr ⟨⟨value, hpresents, hne, .inr hscheme⟩, rfl⟩
  · rintro (⟨hnone | hpresents, rfl⟩ | ⟨⟨value, hpresents, hne, hwrong⟩, rfl⟩)
    · exact .inl (.inl ⟨hnone, rfl⟩)
    · exact .inl (.inr ⟨[], hpresents, .inl ⟨rfl, rfl⟩⟩)
    -- A byte that may not stand there counts before the scheme does.
    · by_cases hplain : ∀ b ∈ value, IsPlain b
      · have hscheme : ¬schemeBytes <+: value := by
          rcases hwrong with ⟨b, hb, hodd⟩ | hscheme
          · exact absurd (hplain b hb) hodd
          · exact hscheme
        refine .inr ⟨_, ⟨value, hpresents, hne, hplain, rfl⟩, ?_, rfl⟩
        rwa [String.toList_ofList, scheme_prefix_iff hplain]
      · have hodd : ∃ b ∈ value, ¬IsPlain b := by
          simpa only [Classical.not_forall, exists_prop] using hplain
        exact .inl (.inr ⟨value, hpresents, .inr ⟨hne, hodd, rfl⟩⟩)

theorem token_eq_missing_iff : token headers = .error missing ↔ Absent headers := by
  have hne : missing ≠ invalid := by decide
  simp [token_eq_error_iff, hne]

theorem token_eq_invalid_iff : token headers = .error invalid ↔ Malformed headers := by
  have hne : invalid ≠ missing := by decide
  simp [token_eq_error_iff, hne]

theorem absent_or_malformed_or_carries (headers : List Header) :
    Absent headers ∨ Malformed headers ∨ ∃ t, Carries headers t := by
  cases htoken : token headers with
  | ok t => exact .inr (.inr ⟨t, token_eq_ok_iff.1 htoken⟩)
  | error e =>
    rcases token_eq_error_iff.1 htoken with ⟨habsent, _⟩ | ⟨hmalformed, _⟩
    · exact .inl habsent
    · exact .inr (.inl hmalformed)

/-- Headers other than the first one for credentials do not matter. -/
theorem token_eq_token_find? (headers : List Header) :
    token headers = token (headers.find? isCarrier).toList := by
  have hfirst : (headers.find? isCarrier).toList.find? isCarrier = headers.find? isCarrier := by
    cases hfind : headers.find? isCarrier with
    | none => rfl
    | some h => simp [List.find?_some hfind]
  simp only [token, ofHeaders, hfirst]

/-! ## A header for a token -/

/-- The header that carries a token. -/
def bearer (cs : List Char) : Header :=
  ⟨headerName, (scheme ++ cs).map fun c => UInt8.ofNat c.toNat⟩

def isPrintable (c : Char) : Bool :=
  0x20 ≤ c.toNat && c.toNat ≤ 0x7E

theorem isPrintable_iff {c : Char} : isPrintable c = true ↔ 0x20 ≤ c.toNat ∧ c.toNat ≤ 0x7E := by
  simp [isPrintable]

/-- Printable characters are plain bytes, one each. -/
theorem encodeChars_of_printable {cs : List Char} (h : cs.all isPrintable = true) :
    Text.Utf8.encodeChars cs = cs.map fun c => UInt8.ofNat c.toNat := by
  induction cs with
  | nil => rfl
  | cons c cs ih =>
    rw [List.all_cons, Bool.and_eq_true, isPrintable_iff] at h
    have hsingle : Text.Utf8.encodeChar c = [UInt8.ofNat c.toNat] :=
      if_pos (show c.toNat < 0x80 by omega)
    calc
      Text.Utf8.encodeChars (c :: cs) = Text.Utf8.encodeChar c ++ Text.Utf8.encodeChars cs := rfl
      _ = UInt8.ofNat c.toNat :: cs.map fun c => UInt8.ofNat c.toNat := by
        rw [hsingle, ih h.2, List.singleton_append]

theorem isPlain_of_printable {cs : List Char} (h : cs.all isPrintable = true) :
    ∀ b ∈ cs.map fun c => UInt8.ofNat c.toNat, IsPlain b := by
  intro b hb
  rcases List.mem_map.1 hb with ⟨c, hc, rfl⟩
  have hrange := isPrintable_iff.1 (List.all_eq_true.1 h c hc)
  exact .inr ⟨by simp [UInt8.le_iff_toNat_le]; omega, by simp [UInt8.le_iff_toNat_le]; omega⟩

theorem isCarrier_bearer (cs : List Char) : isCarrier (bearer cs) = true := by
  have hname : (String.ofList (asciiChars headerName)).toLower = "authorization" := by
    decide +kernel
  exact isCarrier_iff.2 hname

/-- Printable text behind the scheme is carried, whatever it says and whatever follows. -/
theorem carries_bearer {cs : List Char} {before : List Header} (h : cs.all isPrintable = true)
    (hbefore : ∀ other ∈ before, isCarrier other = false) (after : List Header) :
    Carries (before ++ bearer cs :: after) ⟨String.ofList cs⟩ := by
  have hall : (scheme ++ cs).all isPrintable = true := by
    rw [List.all_append, h, Bool.and_true]
    decide
  refine ⟨(bearer cs).value, ⟨before, _, after, rfl, isCarrier_bearer cs, rfl, hbefore⟩,
    isPlain_of_printable hall, ?_⟩
  calc
    (bearer cs).value = Text.Utf8.encodeChars (scheme ++ cs) := (encodeChars_of_printable hall).symm
    _ = schemeBytes ++ Text.Utf8.encode (String.ofList cs) := by
      rw [encodeChars_append, encodeChars_scheme, Text.Utf8.encode, String.toList_ofList]

/-- Text behind the scheme is the token, whatever it says. -/
theorem token_bearer {cs : List Char} (h : cs.all isPrintable = true) :
    token [bearer cs] = .ok ⟨String.ofList cs⟩ :=
  token_eq_ok_iff.2 (carries_bearer h (List.forall_mem_nil _) [])

end BearerAuth.Credentials
