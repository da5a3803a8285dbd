import BearerAuth.Proofs.Policy.Environment
import Mathlib.Tactic.MkIffOfInductiveProp

/-!
# One variable over a file

The text of a variable is typed before it is a field of a policy. A text that reads as a truth value
or a number comes back, in the place of the audience, as that value is printed, and is refused in
the place of a list. Every other text reaches the field unchanged.
-/

namespace BearerAuth

/-! ## Texts that stay texts -/

namespace Environment

variable {s : String}

/-- A text that reads as neither a truth value nor a number. -/
@[mk_iff]
structure ReadsAsText (s : String) : Prop where
  not_truth : Text.lower s ∉ ["true", "false"]
  not_int : Number.int64? s.toList = none
  not_number : SettingNumber.ofChars? s.toList = none

instance (s : String) : Decidable (ReadsAsText s) :=
  decidable_of_iff' _ (readsAsText_iff s)

/-- The value of a variable is its text or a scalar of another type. -/
theorem value_cases (s : String) :
    (ReadsAsText s ∧ value s = .text s) ∨
      (¬ReadsAsText s ∧
        ((∃ b, value s = .bool b) ∨ (∃ n, value s = .int n) ∨ ∃ x, value s = .number x)) := by
  rw [readsAsText_iff]
  simp only [value, List.mem_cons, List.not_mem_nil, or_false, not_or]
  by_cases htrue : Text.lower s = "true"
  · simp [htrue]
  · by_cases hfalse : Text.lower s = "false"
    · simp [hfalse]
    · cases hint : Number.int64? s.toList with
      | some n => simp [htrue, hfalse]
      | none =>
        cases hnumber : SettingNumber.ofChars? s.toList with
        | some x => simp [htrue, hfalse]
        | none => simp [htrue, hfalse]

theorem unlessNil?_value {α : Type} (read : Setting → Option α) (s : String) :
    Setting.unlessNil? read (value s) = (read (value s)).map some := by
  rcases value_cases s with ⟨_, hv⟩ | ⟨_, ⟨b, hv⟩ | ⟨n, hv⟩ | ⟨x, hv⟩⟩
  all_goals
    rw [hv]
    rfl

theorem exists_asText?_value (s : String) :
    ∃ t, (value s).asText? = some t ∧ (ReadsAsText s → t = s) := by
  rcases value_cases s with ⟨_, hv⟩ | ⟨hnot, ⟨b, hv⟩ | ⟨n, hv⟩ | ⟨x, hv⟩⟩
  · exact ⟨s, by rw [hv]; rfl, fun _ => rfl⟩
  -- A scalar is printed in its own way, whatever the text was.
  all_goals exact ⟨_, by rw [hv]; rfl, fun h => absurd h hnot⟩

theorem asList?_value (s : String) :
    (value s).asList? = if ReadsAsText s then some (.text s) else none := by
  rcases value_cases s with ⟨h, hv⟩ | ⟨hnot, hscalar⟩
  · rw [hv, if_pos h]
    rfl
  · rw [if_neg hnot]
    rcases hscalar with ⟨b, hv⟩ | ⟨n, hv⟩ | ⟨x, hv⟩
    all_goals
      rw [hv]
      rfl

theorem settings_nameOf (stem : String) (f : DraftField) (s : String) :
    settings stem [(nameOf stem f, s)] = [(f.key, value s)] := by
  rw [settings_cons, (names_nameOf stem f).key?_eq]
  rfl

end Environment

/-! ## Restricted lists -/

namespace RestrictedList

def draftField : RestrictedList → DraftField
  | audiences => .audiences
  | issuers => .issuers

/-- The step of building that gives a restricted list. -/
def step (input : ListInput) : RestrictedList → PolicyField
  | audiences => .audiences input
  | issuers => .issuers input

end RestrictedList

namespace Policy

def restricted (p : Policy) : RestrictedList → Option (List String)
  | .audiences => p.audiences
  | .issuers => p.issuers

def withRestricted (p : Policy) (items : List String) : RestrictedList → Policy
  | .audiences => { p with audiences := some items }
  | .issuers => { p with issuers := some items }

@[simp] theorem restricted_withRestricted (p : Policy) (items : List String)
    (list : RestrictedList) : (p.withRestricted items list).restricted list = some items := by
  cases list with
  | _ => rfl

end Policy

namespace PolicyDraft

variable {d : PolicyDraft} {p : Policy} {entries : Setting.Entries}

theorem ofSettings?_set (hkeys : (entries.map Prod.fst).Nodup) (h : ofSettings? entries = some d)
    (f : DraftField) (v : Setting) : ofSettings? (entries.set f.key v) = d.putSetting? v f := by
  rcases (ofSettings?_eq_some_iff hkeys).1 h with ⟨hfields, hread⟩
  have hfields' : ∀ key ∈ (entries.set f.key v).map Prod.fst, ∃ g : DraftField, g.key = key := by
    intro key hkey
    rw [Setting.keys_set] at hkey
    split at hkey
    · exact hfields key hkey
    · rcases List.mem_append.1 hkey with hkey | hkey
      · exact hfields key hkey
      · exact ⟨f, (List.mem_singleton.1 hkey).symm⟩
  ext e
  rw [ofSettings?_eq_some_iff (Setting.nodup_keys_set hkeys), putSetting?_eq,
    Option.map_eq_some_iff]
  -- Only the field that has been set is read anew.
  constructor
  · rintro ⟨_, hread'⟩
    have hf := hread' f
    rw [Setting.get?_set, if_pos rfl, Option.elim_some] at hf
    refine ⟨_, hf, eq_of_get ?_⟩
    intro g
    by_cases hg : g = f
    · subst hg
      exact get_withField_self ..
    · have hg' := hread' g
      rw [Setting.get?_set, if_neg fun h => hg (DraftField.key_inj h.symm), hread g] at hg'
      rw [get_withField_of_ne hg]
      exact Option.some.inj hg'
  · rintro ⟨a, ha, rfl⟩
    refine ⟨hfields', ?_⟩
    intro g
    rw [Setting.get?_set]
    by_cases hg : g = f
    · subst hg
      rw [if_pos rfl, Option.elim_some, ha, get_withField_self]
    · rw [if_neg fun h => hg (DraftField.key_inj h.symm), hread g, get_withField_of_ne hg]

/-- A restricted list is set by a variable that stays a text, and by no other. -/
theorem putSetting?_value (d : PolicyDraft) (s : String) (list : RestrictedList) :
    d.putSetting? (Environment.value s) list.draftField =
      if Environment.ReadsAsText s then some (d.set (list.step (.text s))) else none := by
  cases list with
  | _ =>
    simp only [RestrictedList.draftField, putSetting?, Environment.unlessNil?_value,
      Environment.asList?_value]
    split
    · rfl
    · rfl

theorem validate_audience (h : d.validate = .ok p) (audience : String) :
    { d with audience := some audience }.validate = .ok { p with audience := audience } := by
  rcases validate_eq_ok_iff.1 h with ⟨_, hrest⟩
  exact validate_eq_ok_iff.2 ⟨rfl, hrest⟩

theorem checkOptional_some {α β : Type} (check : α → Except PolicyError β) (a : α) :
    checkOptional check (some a) = (check a).map some := rfl

/-- A draft that passes the check passes it with another restricted list exactly when the list
does. -/
theorem validate_step (h : d.validate = .ok p) (input : ListInput) (list : RestrictedList) :
    (d.set (list.step input)).validate =
      (ListInput.restricted list input).map fun items => p.withRestricted items list := by
  rcases validate_eq_ok_iff.1 h with ⟨haudience, halgorithms, haudiences, hissuers, hleeway⟩
  -- The audience and the algorithms are checked first, and pass as they did before.
  have hcheck : ∀ d' : PolicyDraft, d'.audience = d.audience →
      d'.checkedAlgorithms = d.checkedAlgorithms → d'.leeway = d.leeway → d'.validate = do
        let audiences ← checkOptional (ListInput.restricted .audiences) d'.audiences
        let issuers ← checkOptional (ListInput.restricted .issuers) d'.issuers
        return { p with audiences := audiences, issuers := issuers } := by
    intro d' haudience' halgorithms' hleeway'
    rw [validate, haudience', halgorithms', hleeway', haudience, halgorithms, hleeway]
    rfl
  cases list with
  | audiences =>
    rw [hcheck (d.set _) rfl rfl rfl]
    simp only [set, RestrictedList.step, checkOptional_some, hissuers]
    cases ListInput.restricted .audiences input with
    | _ => rfl
  | issuers =>
    rw [hcheck (d.set _) rfl rfl rfl]
    simp only [set, RestrictedList.step, checkOptional_some, haudiences]
    cases ListInput.restricted .issuers input with
    | _ => rfl

end PolicyDraft

/-! ## Loading -/

namespace PolicyFile

open Environment (ReadsAsText nameOf value)

variable {file : PolicyFile} {stem : String} {p : Policy}

/-- A variable that names a field, over a file that loads by itself, sets this field in the draft of
the file. -/
theorem exists_load_eq (h : file.load stem [] = .ok p) :
    ∃ d : PolicyDraft, d.validate = .ok p ∧ ∀ (f : DraftField) (v : String),
      (d.putSetting? (value v) f = none →
        file.load stem [(nameOf stem f, v)] = .error (.parse none)) ∧
      ∀ d', d.putSetting? (value v) f = some d' →
        file.load stem [(nameOf stem f, v)] = d'.validate.mapError fun e => .parse (some e) := by
  rcases load_eq_ok_iff.1 h with ⟨entries, d, htable, hdraft, hd⟩
  refine ⟨d, hd, ?_⟩
  intro f v
  have hset : merged entries (Environment.settings stem [(nameOf stem f, v)]) =
      (merged entries []).set f.key (value v) := by
    rw [Environment.settings_nameOf, merged, Setting.overlay_cons, Setting.standsForItself_key f]
    rfl
  have hread := PolicyDraft.ofSettings?_set (nodup_keys_merged entries []) hdraft f (value v)
  refine ⟨?_, ?_⟩
  · intro hput
    simp only [load_of_table htable, hset, policyOf, hread, hput]
  · intro d' hput
    simp only [load_of_table htable, hset, policyOf, hread, hput]

/-- A variable for the audience always gives the audience as its value is printed, and one for a
restricted list gives what building gives for its text exactly when the text stays a text. -/
theorem variable_reaches_text_field (file : PolicyFile) (stem : String) (p : Policy)
    (h : file.load stem [] = .ok p) (v : String) :
    (∃ s, (value v).asText? = some s ∧ (ReadsAsText v → s = v) ∧
      file.load stem [(nameOf stem .audience, v)] = .ok { p with audience := s }) ∧
    ∀ (list : RestrictedList) (audience : String),
      (file.load stem [(nameOf stem list.draftField, v)]).map (·.restricted list) =
          ((PolicyDraft.ofFields audience [list.step (.text v)]).validate.map
            (·.restricted list)).mapError (fun e => .parse (some e)) ↔
        ReadsAsText v := by
  rcases exists_load_eq h with ⟨d, hd, hload⟩
  refine ⟨?_, ?_⟩
  · rcases Environment.exists_asText?_value v with ⟨s, hs, hsame⟩
    have hput : d.putSetting? (value v) .audience = some { d with audience := some s } := by
      simp only [PolicyDraft.putSetting?, Environment.unlessNil?_value, hs, Option.map_some]
    refine ⟨s, hs, hsame, ?_⟩
    rw [(hload .audience v).2 _ hput, mapError_eq_ok_iff]
    exact PolicyDraft.validate_audience hd s
  · intro list audience
    -- Whatever else a draft holds, the list that is given decides between a policy and an error.
    have hbuilt : (PolicyDraft.ofFields audience [list.step (.text v)]).validate =
        (ListInput.restricted list (.text v)).map fun items =>
          Policy.withRestricted ⟨audience, Algorithm.defaults, none, none, 0⟩ items list :=
      PolicyDraft.validate_step (d := PolicyDraft.ofFields audience []) rfl (.text v) list
    have hput := d.putSetting?_value v list
    rw [hbuilt]
    by_cases htext : ReadsAsText v
    · refine iff_of_true ?_ htext
      rw [if_pos htext] at hput
      rw [(hload _ v).2 _ hput, PolicyDraft.validate_step hd]
      cases ListInput.restricted list (.text v) with
      | error e => rfl
      | ok items => simp [Except.map, Except.mapError]
    -- The file fails before the list is checked, so its error is not one of the list.
    · refine iff_of_false ?_ htext
      rw [if_neg htext] at hput
      rw [(hload _ v).1 hput]
      cases ListInput.restricted list (.text v) with
      | error e => simp [Except.map, Except.mapError]
      | ok items => simp [Except.map, Except.mapError]

/-- A text with a comma in it stays a text. -/
theorem sample_text_reaches_field :
    sampleFile.load "P" [] = .ok ⟨"a", Algorithm.defaults, none, none, 5⟩ ∧
      sampleFile.load "P" [("P_AUDIENCE", "x, y")] =
        .ok ⟨"x, y", Algorithm.defaults, none, none, 5⟩ ∧
      (sampleFile.load "P" [("P_AUTHORIZED_ISSUERS", "x, y")]).map (·.issuers) =
        .ok (some ["x", "y"]) := by
  have hfile : sampleFile.load "P" [] = .ok ⟨"a", Algorithm.defaults, none, none, 5⟩ := by
    decide +kernel
  have htext : ReadsAsText "x, y" := by decide +kernel
  rcases variable_reaches_text_field sampleFile "P" _ hfile "x, y" with
    ⟨⟨s, _, hsame, hload⟩, hlist⟩
  obtain rfl := hsame htext
  refine ⟨hfile, hload, ?_⟩
  calc
    (sampleFile.load "P" [("P_AUTHORIZED_ISSUERS", "x, y")]).map (·.issuers)
        = ((PolicyDraft.ofFields "b" [.issuers (.text "x, y")]).validate.map
            (·.issuers)).mapError (fun e => .parse (some e)) := (hlist .issuers "b").2 htext
    _ = .ok (some ["x", "y"]) := by decide +kernel

/-- A variable that reads as a number is printed back in another form as an audience, and refused as
a list of issuers, where building takes its text. -/
theorem typed_text_altered :
    let file := PolicyFile.present "a.json" "\x7b\"audience\":\"a\"\x7d".toUTF8.toList
    file.load "FACTORIA_AUTH" [] = .ok ⟨"a", Algorithm.defaults, none, none, 0⟩ ∧
      file.load "FACTORIA_AUTH" [("FACTORIA_AUTH_AUDIENCE", "007")] =
        .ok ⟨"7", Algorithm.defaults, none, none, 0⟩ ∧
      file.load "FACTORIA_AUTH" [("FACTORIA_AUTH_AUTHORIZED_ISSUERS", "123")] =
        .error (.parse none) ∧
      (PolicyDraft.ofFields "a" [.issuers (.text "123")]).validate =
        .ok ⟨"a", Algorithm.defaults, none, some ["123"], 0⟩ := by
  intro file
  refine ⟨?_, ?_, ?_, ?_⟩
  · decide +kernel
  · decide +kernel
  · decide +kernel
  · decide +kernel

end PolicyFile

end BearerAuth
