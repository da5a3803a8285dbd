import BearerAuth.Proofs.Policy.Provenance
import BearerAuth.Proofs.Settings.Edit

/-!
# Environments over files

An environment over a file comes to an edit of the file: the fields that variables name have the
values of these variables, and all else is as in the file. Variables that do not count make no
difference, and neither does the order of those that do.
-/

namespace BearerAuth.PolicyFile

open Environment (NamesFieldsOnce counting given)
open Setting (Entries)

variable {entries entries' source source' table : Entries} {key : String}

theorem nodup_keys_merged (entries source : Entries) :
    ((merged entries source).map Prod.fst).Nodup :=
  Setting.nodup_keys_overlay (Setting.nodup_keys_overlay List.nodup_nil)

theorem policyOf_congr
    (h : ∀ key, (merged entries source).get? key = (merged entries' source').get? key) :
    policyOf (merged entries source) = policyOf (merged entries' source') := by
  rw [policyOf, policyOf,
    PolicyDraft.ofSettings?_congr (nodup_keys_merged _ _) (nodup_keys_merged _ _) h]

theorem get?_merged (h : source.IsFlat) (entries : Entries) (key : String) :
    (merged entries source).get? key = (source.get? key).or ((merged entries []).get? key) :=
  Setting.get?_overlay h

theorem get?_merged_leadingInto (entries : Entries) (key : String) :
    (merged entries []).get? key = (merged (entries.leadingInto key) []).get? key :=
  Setting.get?_overlay_leadingInto (v := .table []) (w := .table []) rfl

theorem policyOf_merged_eq_edit {given : DraftField → Option Setting} (hsource : source.Gives given)
    (hedit : Entries.IsEdit given entries table) :
    policyOf (merged entries source) = policyOf (merged table []) := by
  refine policyOf_congr ?_
  intro key
  rw [get?_merged hsource.isFlat, get?_merged_leadingInto table]
  -- Either the key is a field that has been given a value, or the edit leaves it alone.
  by_cases hgiven : ∃ f : DraftField, f.key = key ∧ given f ≠ none
  · rcases hgiven with ⟨f, rfl, hf⟩
    rcases Option.ne_none_iff_exists'.1 hf with ⟨v, hv⟩
    have hflat : Entries.IsFlat [(f.key, v)] :=
      Entries.isFlat_cons_iff.2 ⟨Setting.standsForItself_key f, by simp, by simp, List.nodup_nil⟩
    have hsingle : Entries.get? [(f.key, v)] f.key = some v := by simp [Entries.get?]
    rw [hsource.get?_key, hv, hedit.changed f v hv]
    calc
      (some v).or ((merged entries []).get? f.key) = some v := rfl
      _ = (Entries.get? [(f.key, v)] f.key).or none := by rw [hsingle, Option.or_none]
      _ = (merged [(f.key, v)] []).get? f.key := (Setting.get?_overlay (v := .table []) hflat).symm
  · have hkey : ∀ f : DraftField, f.key = key → given f = none := by
      intro f hf
      by_contra hsome
      exact hgiven ⟨f, hf, hsome⟩
    rw [hsource.get?_eq_none hkey, Option.none_or, get?_merged_leadingInto entries,
      hedit.kept key hkey]

theorem load_of_table {file : PolicyFile} (h : file.table = .ok entries) (stem : String)
    (bindings : List (String × String)) :
    file.load stem bindings = policyOf (merged entries (Environment.settings stem bindings)) := by
  rw [load_eq, h]
  rfl

/-- Loading a file under variables that each name a field of their own is loading the edited file
under none, and neither other variables nor the order of these make a difference. -/
theorem environment_edits_file (file : PolicyFile) (entries : Entries) (stem : String)
    (bindings : List (String × String)) (hfile : file.table = .ok entries)
    (hnames : NamesFieldsOnce stem bindings) :
    Entries.IsEdit (given stem bindings) entries (entries.edited (given stem bindings)) ∧
      (∀ table, Entries.IsEdit (given stem bindings) entries table →
        file.load stem bindings = loadTable table stem []) ∧
      ∀ bindings', (counting stem bindings').Perm (counting stem bindings) →
        file.load stem bindings' = file.load stem bindings := by
  have hedit := Entries.isEdit_edited entries (given stem bindings)
  have hload : ∀ bindings', (Environment.settings stem bindings').Gives (given stem bindings) →
      ∀ table, Entries.IsEdit (given stem bindings) entries table →
        file.load stem bindings' = loadTable table stem [] := by
    intro bindings' hgives table htable
    rw [load_of_table hfile, policyOf_merged_eq_edit hgives htable]
    rfl
  refine ⟨hedit, hload bindings hnames.gives, ?_⟩
  intro bindings' hperm
  -- The settings are the same up to their order, so they come to the same edit.
  have hsettings :
      (Environment.settings stem bindings').Perm (Environment.settings stem bindings) := by
    rw [← Environment.settings_counting stem bindings',
      ← Environment.settings_counting stem bindings]
    exact hperm.filterMap _
  rw [hload bindings' (hnames.gives.perm hsettings) _ hedit, hload bindings hnames.gives _ hedit]

/-- A file with an audience and a leeway. -/
def sampleFile : PolicyFile :=
  .present "p.json" "\x7b\"audience\":\"a\",\"leeway_seconds\":5\x7d".toUTF8.toList

/-- Two variables that name fields in other letters, and three that do not count. -/
theorem sample_file_edited :
    let bindings := [("PATH", "/"), ("p_Leeway_Seconds", "60"), ("PP_AUDIENCE", "b"),
      ("P_AUTHORIZED_ISSUERS", "i, j"), ("AUDIENCE", "c")]
    let table : Entries :=
      [("audience", .text "a"), ("leeway_seconds", .int 60), ("authorized_issuers", .text "i, j")]
    sampleFile.load "P" bindings = loadTable table "P" [] ∧
      sampleFile.load "P" bindings = .ok ⟨"a", Algorithm.defaults, none, some ["i", "j"], 60⟩ ∧
        sampleFile.load "P" [("P_AUTHORIZED_ISSUERS", "i, j"), ("p_Leeway_Seconds", "60")] =
          sampleFile.load "P" bindings := by
  intro bindings table
  have hfile : sampleFile.table = .ok [("audience", .text "a"), ("leeway_seconds", .int 5)] := by
    with_unfolding_all rfl
  have hnames : NamesFieldsOnce "P" bindings := by decide +kernel
  have hfound : ∀ f, (bindings.find? fun b => Environment.Names "P" b.1 f) =
      if f = .leeway then some ("p_Leeway_Seconds", "60")
      else if f = .issuers then some ("P_AUTHORIZED_ISSUERS", "i, j")
      else none := by decide +kernel
  have hgiven : ∀ f, given "P" bindings f =
      if f = .leeway then some (.int 60)
      else if f = .issuers then some (.text "i, j")
      else none := by
    intro f
    rw [given, hfound]
    cases f with
    | _ => rfl
  have hedit : Entries.IsEdit (given "P" bindings)
      [("audience", .text "a"), ("leeway_seconds", .int 5)] table := by
    refine (Entries.isEdit_iff ?_ ?_).2 ⟨?_, ?_⟩
    · exact ⟨by decide +kernel, by decide⟩
    · exact ⟨by decide +kernel, by decide⟩
    · intro f v hf
      rw [hgiven] at hf
      cases f with
      | leeway | issuers => exact hf
      | _ => cases hf
    · intro key hkey
      have hne : ∀ f : DraftField, (given "P" bindings f).isSome → f.key ≠ key := by
        intro f hf h
        simp [hkey f h] at hf
      have hleeway : "leeway_seconds" ≠ key := hne .leeway (by rw [hgiven]; rfl)
      have hissuers : "authorized_issuers" ≠ key := hne .issuers (by rw [hgiven]; rfl)
      simp [table, Entries.get?, lookup_cons, hleeway, hissuers]
  rcases environment_edits_file sampleFile _ "P" bindings hfile hnames with ⟨_, hload, hframe⟩
  refine ⟨hload table hedit, ?_, ?_⟩
  · rw [hload table hedit]
    decide +kernel
  · refine hframe _ ?_
    decide +kernel

end BearerAuth.PolicyFile
