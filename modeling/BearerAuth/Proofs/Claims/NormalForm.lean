import BearerAuth.Proofs.Claims.StringList
import BearerAuth.Proofs.Text.Words
import Mathlib.Data.List.Forall2

/-!
# What a list of texts is read as

A claim that is a list of texts is refused for its type when it is neither a string nor an array,
and as an empty list when it is a blank string or an array of nothing but `null` and blank strings.
Every other claim is read as a list of texts in normal form, with a text for each entry of the array
that is not left out.

Entries are left out when their text is empty after it has been trimmed and lower-cased. Since
lower-casing empties no text and compact texts are never empty, these are the entries that are
`null` or blank to begin with.
-/

namespace BearerAuth

namespace Claims

variable {v : Json} {entries : List Json} {items : List String} {s : String} {e : ClaimsError}

/-! ## Entries of an array -/

/-- An entry that stands for no text: `null` or a blank string. -/
def IsVoid : Json → Prop
  | .null => True
  | .str s => Text.IsBlankText s
  | _ => False

instance : DecidablePred IsVoid
  | .null => isTrue trivial
  | .str s => inferInstanceAs (Decidable (Text.IsBlankText s))
  | .bool _ | .num _ | .arr _ | .obj _ => isFalse not_false

/-- The text that an entry stands for unless it is void: a string is trimmed, any other value is
written in compact form, and both are lower-cased. -/
inductive StandsFor : Json → String → Prop
  | str (s : String) : StandsFor (.str s) (Text.lower (Text.trim s))
  | other (v : Json) (h : ∀ s, v ≠ .str s) : StandsFor v (Text.lower v.compact)

theorem lower_trim_eq_empty_iff : Text.lower (Text.trim s) = "" ↔ Text.IsBlankText s := by
  rw [Text.lower_eq_empty_iff, Text.trim_eq_empty_iff]

theorem lower_compact_ne_empty (v : Json) : Text.lower v.compact ≠ "" :=
  (isNormal_lower (Json.isTrimmed_write v) (Json.write_ne_nil v)).ne_empty

theorem exists_standsFor (h : ¬IsVoid v) :
    ∃ s, StandsFor v s ∧ s ≠ "" ∧ entryText? v = some s := by
  cases v with
  | null => exact absurd trivial h
  | str s => exact ⟨_, .str s, mt lower_trim_eq_empty_iff.1 h, rfl⟩
  | bool b => exact ⟨_, .other _ nofun, lower_compact_ne_empty _, rfl⟩
  | num n => exact ⟨_, .other _ nofun, lower_compact_ne_empty _, rfl⟩
  | arr entries => exact ⟨_, .other _ nofun, lower_compact_ne_empty _, rfl⟩
  | obj members => exact ⟨_, .other _ nofun, lower_compact_ne_empty _, rfl⟩

theorem entryTexts_cons_of_isVoid (h : IsVoid v) :
    entryTexts (v :: entries) = entryTexts entries := by
  cases v with
  | null => rfl
  | str s =>
    -- A blank string has a text at first, and it is dropped for being empty.
    have htext : entryText? (.str s) = some "" := congrArg some (lower_trim_eq_empty_iff.2 h)
    rw [entryTexts, List.filterMap_cons_some htext, List.filter_cons_of_neg (by simp), entryTexts]
  | _ => cases h

theorem entryTexts_cons_of_eq_some (htext : entryText? v = some s) (hne : s ≠ "") :
    entryTexts (v :: entries) = s :: entryTexts entries := by
  rw [entryTexts, List.filterMap_cons_some htext, List.filter_cons_of_pos (by simpa using hne),
    entryTexts]

/-- The texts of an array, one for each entry that is not void and in the order of the entries. -/
theorem forall₂_entryTexts (entries : List Json) :
    List.Forall₂ StandsFor (entries.filter fun v => ¬IsVoid v) (entryTexts entries) := by
  induction entries with
  | nil => exact .nil
  | cons v entries ih =>
    by_cases hvoid : IsVoid v
    · rw [List.filter_cons_of_neg (by simpa using hvoid), entryTexts_cons_of_isVoid hvoid]
      exact ih
    · rcases exists_standsFor hvoid with ⟨s, hs, hne, htext⟩
      rw [List.filter_cons_of_pos (by simpa using hvoid), entryTexts_cons_of_eq_some htext hne]
      exact .cons hs ih

theorem entryTexts_eq_nil_iff : entryTexts entries = [] ↔ ∀ v ∈ entries, IsVoid v := by
  have hpaired := forall₂_entryTexts entries
  have hnone : entryTexts entries = [] ↔ (entries.filter fun v => ¬IsVoid v) = [] := by
    rw [← List.length_eq_zero_iff, ← List.length_eq_zero_iff, hpaired.length_eq]
  rw [hnone, List.filter_eq_nil_iff]
  simp only [decide_eq_true_eq, not_not]

/-! ## Words of a string -/

theorem lowerWords_eq_nil_iff : lowerWords s = [] ↔ Text.IsBlankText s := by
  unfold lowerWords
  rw [List.map_eq_nil_iff, Text.words_lowerChars, List.map_eq_nil_iff, Text.words_eq_nil_iff]
  rfl

theorem isBlank_of_mem_lowerWords {text : String} (h : s ∈ lowerWords text) :
    ∀ c ∈ s.toList, Text.isBlank c = false := by
  rcases List.mem_map.1 h with ⟨w, hw, rfl⟩
  rw [String.toList_ofList]
  exact fun c hc => ((Text.of_mem_words hw).2 c hc).2

theorem flatten_lowerWords (text : String) :
    ((lowerWords text).map String.toList).flatten =
      (Text.lower text).toList.filter fun c => !Text.isBlank c := by
  rw [Text.lower, String.toList_ofList, ← Text.flatten_words, lowerWords, List.map_map]
  simp [Function.comp_def]

/-! ## Claims -/

theorem nonempty_eq_error_iff : nonempty items = .error e ↔ items = [] ∧ e = .emptyList := by
  unfold nonempty
  cases items with
  | nil => simp [eq_comm]
  | cons s items => simp

/-- Why a claim is not read as a list of texts. -/
inductive Refused : Json → ClaimsError → Prop
  /-- It is neither a string nor an array. -/
  | type {v : Json} (hstr : ∀ s, v ≠ .str s) (harr : ∀ entries, v ≠ .arr entries) :
    Refused v .expectedStringOrList
  /-- It is a string of nothing but blanks. -/
  | blank {s : String} (h : Text.IsBlankText s) : Refused (.str s) .emptyList
  /-- It is an array of nothing but void entries. -/
  | void {entries : List Json} (h : ∀ v ∈ entries, IsVoid v) : Refused (.arr entries) .emptyList

theorem stringList_eq_error_iff : stringList v = .error e ↔ Refused v e := by
  constructor
  · intro h
    cases v with
    | str s =>
      rcases nonempty_eq_error_iff.1 h with ⟨hnone, rfl⟩
      exact .blank (lowerWords_eq_nil_iff.1 hnone)
    | arr entries =>
      rcases nonempty_eq_error_iff.1 h with ⟨hnone, rfl⟩
      exact .void (entryTexts_eq_nil_iff.1 hnone)
    | _ =>
      obtain rfl := Except.error.inj h
      exact .type nofun nofun
  · intro h
    cases h with
    | type hstr harr =>
      cases v with
      | str s => exact absurd rfl (hstr s)
      | arr entries => exact absurd rfl (harr entries)
      | _ => rfl
    | blank hblank => exact nonempty_eq_error_iff.2 ⟨lowerWords_eq_nil_iff.2 hblank, rfl⟩
    | void hvoid => exact nonempty_eq_error_iff.2 ⟨entryTexts_eq_nil_iff.2 hvoid, rfl⟩

/-- The texts that are read from a claim. -/
structure IsReadAs (v : Json) (items : List String) : Prop where
  ne_nil : items ≠ []
  normal : ∀ s ∈ items, IsNormal s
  trimmed : ∀ s ∈ items, Text.IsTrimmed s.toList
  /-- The texts of a string have no blanks, and they leave out nothing else. -/
  words : ∀ text, v = .str text →
    (∀ s ∈ items, ∀ c ∈ s.toList, Text.isBlank c = false) ∧
      (items.map String.toList).flatten =
        (Text.lower text).toList.filter fun c => !Text.isBlank c
  /-- An array has a text for each entry that is not void, in the order of the entries. -/
  entries : ∀ entries, v = .arr entries →
    List.Forall₂ StandsFor (entries.filter fun entry => ¬IsVoid entry) items

theorem isReadAs_of_stringList (h : stringList v = .ok items) : IsReadAs v items := by
  rcases isNormal_of_stringList h with ⟨hne, hnormal⟩
  refine ⟨hne, hnormal, fun s hs => (hnormal s hs).isTrimmed, ?_, ?_⟩
  · rintro text rfl
    obtain rfl := (nonempty_eq_ok_iff.1 h).2
    exact ⟨fun s hs => isBlank_of_mem_lowerWords hs, flatten_lowerWords text⟩
  · rintro entries rfl
    obtain rfl := (nonempty_eq_ok_iff.1 h).2
    exact forall₂_entryTexts entries

/-- A claim is refused for its type exactly when it is neither a string nor an array, and as an
empty list exactly when it is a blank string or an array of entries that are `null` or blank
strings; there is no other error. From every other claim a list is read. It is not empty, and its
texts are not empty, have no blanks at their ends and are in lower case; those of a string have no
blanks at all, and those of an array are one for each entry that is neither `null` nor a blank
string, in order and with repetitions. -/
theorem texts_read_in_normal_form (v : Json) :
    (∀ e, stringList v = .error e ↔ Refused v e) ∧
      ((∀ e, ¬Refused v e) → ∃ items, stringList v = .ok items ∧ IsReadAs v items) := by
  refine ⟨fun e => stringList_eq_error_iff, ?_⟩
  intro haccepted
  cases h : stringList v with
  | error e => exact absurd (stringList_eq_error_iff.1 h) (haccepted e)
  | ok items => exact ⟨items, rfl, isReadAs_of_stringList h⟩

end Claims

namespace Sample

/-- An array with a text that occurs twice, void entries and entries that are no strings. -/
def mixedScope : Json :=
  .arr [.str " Read", .null, .ofInt 5, .str "\t", .str "READ ", .arr [.bool true, .str "A b"]]

end Sample

/-- Letter case and blanks around an entry do not tell texts apart, and a text that occurs again is
read again. -/
theorem Claims.sample_texts_in_normal_form :
    (∀ e, ¬Refused Sample.mixedScope e) ∧
      IsReadAs Sample.mixedScope ["read", "5", "read", "[true,\"a b\"]"] := by
  rcases texts_read_in_normal_form Sample.mixedScope with ⟨herror, hok⟩
  have hread : stringList Sample.mixedScope = .ok ["read", "5", "read", "[true,\"a b\"]"] := by
    decide +kernel
  have haccepted : ∀ e, ¬Refused Sample.mixedScope e := by
    intro e he
    rw [← herror e, hread] at he
    cases he
  rcases hok haccepted with ⟨items, hitems, hreadAs⟩
  obtain rfl := Except.ok.inj (hitems.symm.trans hread)
  exact ⟨haccepted, hreadAs⟩

end BearerAuth
