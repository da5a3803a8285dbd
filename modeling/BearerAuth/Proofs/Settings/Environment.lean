import BearerAuth.Proofs.Settings.Place
import BearerAuth.Proofs.Text.Lower
import BearerAuth.Settings.Environment
import Mathlib.Data.List.Pairwise
import Mathlib.Tactic.MkIffOfInductiveProp

/-!
# Variables that count

A variable counts when its name starts with the stem and an underscore, letter case aside, and it
names a field when the key of the field is all that follows. The settings that an environment holds
depend on the variables that count and on no others.
-/

namespace BearerAuth

/-- The name of the variable for a field, after the stem and an underscore. -/
def DraftField.variable : DraftField → String
  | audience => "AUDIENCE"
  | algorithms => "AUTHORIZED_ALGORITHMS"
  | audiences => "AUTHORIZED_AUDIENCES"
  | issuers => "AUTHORIZED_ISSUERS"
  | leeway => "LEEWAY_SECONDS"

namespace Environment

open Text (lowerChars lowerFrom)

variable {stem name : String} {f : DraftField} {bindings : List (String × String)}

/-- The stem and an underscore stand in front of a name, letter case aside. -/
def Counts (stem name : String) : Prop :=
  lowerChars stem.toList ++ ['_'] <+: lowerChars name.toList

/-- A name is the stem, an underscore and the key of a field, letter case aside. -/
def Names (stem name : String) (f : DraftField) : Prop :=
  lowerChars name.toList = lowerChars stem.toList ++ '_' :: f.key.toList

instance (stem name : String) : Decidable (Counts stem name) :=
  inferInstanceAs (Decidable (_ <+: _))

instance (stem name : String) (f : DraftField) : Decidable (Names stem name f) :=
  inferInstanceAs (Decidable (_ = _))

theorem isUncased_underscore : Text.IsUncased '_' := by
  decide +kernel

/-- An underscore ends what is looked at around a sigma, so the stem is lower-cased by itself. -/
theorem lowerChars_append_underscore (cs ds : List Char) :
    lowerChars (cs ++ '_' :: ds) = lowerChars cs ++ '_' :: lowerChars ds :=
  Text.lowerFrom_append_cons isUncased_underscore

theorem key?_eq_some_iff {key : String} :
    key? stem name = some key ↔
      ∃ rest, lowerChars name.toList = lowerChars stem.toList ++ '_' :: rest ∧
        String.ofList (dotted rest) = key := by
  have hlead : lowerChars (stem.toList ++ ['_']) = lowerChars stem.toList ++ ['_'] :=
    lowerChars_append_underscore stem.toList []
  simp only [key?, hlead, Option.map_eq_some_iff, Text.after?_eq_some_iff, List.append_assoc,
    List.singleton_append]

theorem key?_eq_none_iff : key? stem name = none ↔ ¬Counts stem name := by
  have hsome : (∃ key, key? stem name = some key) ↔ Counts stem name := by
    constructor
    · rintro ⟨key, hkey⟩
      rcases key?_eq_some_iff.1 hkey with ⟨rest, hrest, _⟩
      exact ⟨rest, by rw [hrest, List.append_assoc, List.singleton_append]⟩
    · rintro ⟨rest, hrest⟩
      refine ⟨_, key?_eq_some_iff.2 ⟨rest, ?_, rfl⟩⟩
      rw [← hrest, List.append_assoc, List.singleton_append]
  rw [← hsome, Option.eq_none_iff_forall_ne_some, not_exists]

theorem Names.key?_eq (h : Names stem name f) : key? stem name = some f.key := by
  refine key?_eq_some_iff.2 ⟨f.key.toList, h, ?_⟩
  cases f with
  | _ => decide

/-- The name of the variable for a field. -/
def nameOf (stem : String) (f : DraftField) : String :=
  stem ++ "_" ++ f.variable

theorem names_nameOf (stem : String) (f : DraftField) : Names stem (nameOf stem f) f := by
  have hlower : lowerChars f.variable.toList = f.key.toList := by
    cases f with
    | _ => decide +kernel
  have hchars : (nameOf stem f).toList = stem.toList ++ '_' :: f.variable.toList := by
    simp [nameOf]
  rw [Names, hchars, lowerChars_append_underscore, hlower]

/-! ## The settings of an environment -/

theorem settings_cons (b : String × String) (bindings : List (String × String)) :
    settings stem (b :: bindings) =
      ((key? stem b.1).map fun key => (key, value b.2)).toList ++ settings stem bindings := by
  unfold settings
  rw [List.filterMap_cons]
  cases h : key? stem b.1 with
  | none => simp [h]
  | some key => simp [h]

/-- The variables that count. -/
def counting (stem : String) (bindings : List (String × String)) : List (String × String) :=
  bindings.filter fun b => Counts stem b.1

theorem settings_counting (stem : String) (bindings : List (String × String)) :
    settings stem (counting stem bindings) = settings stem bindings := by
  unfold counting
  induction bindings with
  | nil => rfl
  | cons b bindings ih =>
    by_cases hb : Counts stem b.1
    · rw [List.filter_cons_of_pos (by simpa using hb), settings_cons, settings_cons, ih]
    -- A variable that does not count has no key, so it is no setting either.
    · rw [List.filter_cons_of_neg (by simpa using hb), settings_cons, key?_eq_none_iff.2 hb, ih]
      rfl

/-- The value that an environment has for a field. -/
def given (stem : String) (bindings : List (String × String)) (f : DraftField) : Option Setting :=
  (bindings.find? fun b => Names stem b.1 f).map fun b => value b.2

/-- Every variable that counts names a field, and no field is named twice. -/
@[mk_iff]
structure NamesFieldsOnce (stem : String) (bindings : List (String × String)) : Prop where
  names : ∀ b ∈ bindings, Counts stem b.1 → ∃ f, Names stem b.1 f
  once : bindings.Pairwise fun b b' => ∀ f, Names stem b.1 f → ¬Names stem b'.1 f

instance (stem : String) (bindings : List (String × String)) :
    Decidable (NamesFieldsOnce stem bindings) :=
  decidable_of_iff' _ (namesFieldsOnce_iff stem bindings)

end Environment

/-- A table that has a value for some fields and no other entries. -/
structure Setting.Entries.Gives (entries : Entries) (given : DraftField → Option Setting) :
    Prop where
  nodup : (entries.map Prod.fst).Nodup
  mem_iff : ∀ key v, (key, v) ∈ entries ↔ ∃ f : DraftField, f.key = key ∧ given f = some v

namespace Setting.Entries.Gives

variable {entries : Entries} {given : DraftField → Option Setting} {key : String}

theorem get?_key (h : entries.Gives given) (f : DraftField) : entries.get? f.key = given f := by
  ext v
  rw [Entries.get?, lookup_eq_some_iff h.nodup, h.mem_iff]
  constructor
  · rintro ⟨g, hg, hv⟩
    exact DraftField.key_inj hg ▸ hv
  · intro hv
    exact ⟨f, rfl, hv⟩

theorem get?_eq_none (h : entries.Gives given)
    (hkey : ∀ f : DraftField, f.key = key → given f = none) : entries.get? key = none := by
  refine Option.eq_none_iff_forall_ne_some.2 ?_
  intro v hv
  rcases (h.mem_iff key v).1 (mem_of_lookup hv) with ⟨f, hf, hgiven⟩
  rw [hkey f hf] at hgiven
  cases hgiven

theorem isFlat (h : entries.Gives given) : entries.IsFlat := by
  refine ⟨?_, h.nodup⟩
  intro e he
  rcases (h.mem_iff e.1 e.2).1 he with ⟨f, hf, _⟩
  exact hf ▸ standsForItself_key f

theorem perm (h : entries.Gives given) {entries' : Entries} (hperm : entries'.Perm entries) :
    entries'.Gives given := by
  refine ⟨?_, ?_⟩
  · exact (hperm.map Prod.fst).nodup_iff.2 h.nodup
  · intro key v
    rw [hperm.mem_iff, h.mem_iff]

end Setting.Entries.Gives

namespace Environment

variable {stem : String} {bindings : List (String × String)}

theorem NamesFieldsOnce.names_of_key? (h : NamesFieldsOnce stem bindings) {b : String × String}
    {key : String} (hb : b ∈ bindings) (hkey : key? stem b.1 = some key) :
    ∃ f : DraftField, f.key = key ∧ Names stem b.1 f := by
  -- Only variables that count have a key.
  have hcounts : Counts stem b.1 := by
    by_contra hnot
    rw [key?_eq_none_iff.2 hnot] at hkey
    cases hkey
  rcases h.names b hb hcounts with ⟨f, hf⟩
  exact ⟨f, Option.some.inj (hf.key?_eq.symm.trans hkey), hf⟩

theorem NamesFieldsOnce.given_eq_some_iff (h : NamesFieldsOnce stem bindings) {f : DraftField}
    {v : Setting} :
    given stem bindings f = some v ↔ ∃ b ∈ bindings, Names stem b.1 f ∧ value b.2 = v := by
  rw [given, Option.map_eq_some_iff]
  constructor
  · rintro ⟨b, hfind, hv⟩
    exact ⟨b, List.mem_of_find?_eq_some hfind, by simpa using List.find?_some hfind, hv⟩
  · rintro ⟨b, hb, hf, hv⟩
    cases hfind : bindings.find? fun b => Names stem b.1 f with
    | none => exact absurd hf (by simpa using List.find?_eq_none.1 hfind b hb)
    | some b' =>
      have hb' : b' ∈ bindings := List.mem_of_find?_eq_some hfind
      have hf' : Names stem b'.1 f := by simpa using List.find?_some hfind
      -- Two variables that name one field are one variable.
      have hsame : b' = b := by
        by_contra hne
        have : Std.Symm fun b b' : String × String => ∀ f, Names stem b.1 f → ¬Names stem b'.1 f :=
          ⟨fun _ _ hR f hf hf' => hR f hf' hf⟩
        exact h.once.forall hb' hb hne f hf' hf
      exact ⟨b', rfl, hsame ▸ hv⟩

/-- Where every variable that counts names a field of its own, the settings hold the values of these
variables for their fields. -/
theorem NamesFieldsOnce.gives (h : NamesFieldsOnce stem bindings) :
    (settings stem bindings).Gives (given stem bindings) := by
  constructor
  · rw [settings, List.map_filterMap, List.nodup_iff_pairwise_ne, List.pairwise_filterMap]
    refine h.once.imp_of_mem ?_
    rintro b b' hb hb' honce _ hkey _ hkey' rfl
    simp only [Option.map_map, Option.map_eq_some_iff] at hkey hkey'
    rcases hkey with ⟨key, hkey, rfl⟩
    rcases hkey' with ⟨key', hkey', hsame⟩
    rcases h.names_of_key? hb hkey with ⟨f, hf, hnames⟩
    rcases h.names_of_key? hb' hkey' with ⟨g, hg, hnames'⟩
    -- Equal keys are keys of one field, which two variables would name.
    obtain rfl : g = f := DraftField.key_inj (hg.trans (hsame.trans hf.symm))
    exact honce g hnames hnames'
  · intro key v
    have hmem : (key, v) ∈ settings stem bindings ↔
        ∃ b ∈ bindings, key? stem b.1 = some key ∧ value b.2 = v := by
      simp [settings, List.mem_filterMap]
    simp only [hmem, h.given_eq_some_iff]
    constructor
    · rintro ⟨b, hb, hkey, hv⟩
      rcases h.names_of_key? hb hkey with ⟨f, hf, hnames⟩
      exact ⟨f, hf, b, hb, hnames, hv⟩
    · rintro ⟨f, rfl, b, hb, hnames, hv⟩
      exact ⟨b, hb, hnames.key?_eq, hv⟩

end Environment

end BearerAuth
