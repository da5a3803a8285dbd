import BearerAuth.Policy.File
import BearerAuth.Policy.Json
import BearerAuth.Proofs.Policy.Algorithms

/-!
# Where policies come from

A policy is built in steps, checked from a draft, read from JSON, or loaded from a file under an
environment. All of these paths end in the one check of drafts, so what the check establishes holds
of every policy; the algorithms of a policy are asymmetric.
-/

namespace BearerAuth

/-! ## The check of drafts -/

namespace PolicyDraft

/-- The check of a draft fills every field of the policy from the field of the same name. -/
theorem validate_eq_ok_iff {d : PolicyDraft} {p : Policy} :
    d.validate = .ok p ↔
      d.audience = some p.audience ∧ d.checkedAlgorithms = .ok p.algorithms ∧
        checkOptional (ListInput.restricted .audiences) d.audiences = .ok p.audiences ∧
          checkOptional (ListInput.restricted .issuers) d.issuers = .ok p.issuers ∧
            d.leeway.getD 0 = p.leeway := by
  rcases p with ⟨audience, algorithms, audiences, issuers, leeway⟩
  unfold validate
  cases d.audience with
  | none => simp [bind, Except.bind]
  | some s =>
    simp only [bind_eq_ok_iff, Except.ok.injEq, pure, Except.pure, Policy.mk.injEq,
      Option.some.injEq]
    constructor
    · rintro ⟨_, rfl, _, halg, _, haud, _, hiss, rfl, rfl, rfl, rfl, hleeway⟩
      exact ⟨rfl, halg, haud, hiss, hleeway⟩
    · rintro ⟨rfl, halg, haud, hiss, hleeway⟩
      exact ⟨_, rfl, _, halg, _, haud, _, hiss, rfl, rfl, rfl, rfl, hleeway⟩

theorem isAsymmetric_of_validate {d : PolicyDraft} {p : Policy} (h : d.validate = .ok p)
    {a : Algorithm} (ha : a ∈ p.algorithms) : a.isAsymmetric = true := by
  have hchecked : d.checkedAlgorithms = .ok p.algorithms := (validate_eq_ok_iff.1 h).2.1
  unfold checkedAlgorithms at hchecked
  cases hnames : d.algorithms with
  | none =>
    have hdefaults : Algorithm.defaults = p.algorithms := by simpa [hnames] using hchecked
    exact Algorithm.mem_defaults_iff.1 (hdefaults ▸ ha)
  | some input =>
    rw [hnames] at hchecked
    exact Algorithm.mem_defaults_iff.1 ((parseAlgorithms_eq_ok_iff.1 hchecked).1 a ha)

end PolicyDraft

/-! ## Every path -/

namespace Policy

/-- A policy that one of the ways of making policies yields. -/
inductive Obtainable (p : Policy) : Prop where
  | built (audience : String) (fields : List PolicyField)
      (h : (PolicyDraft.ofFields audience fields).validate = .ok p)
  | checked (d : PolicyDraft) (h : d.validate = .ok p)
  | text (s : String) (h : ofText s = .ok p)
  | json (v : Json) (h : ofJson v = .ok p)
  | file (file : PolicyFile) (stem : String) (bindings : List (String × String))
      (h : file.load stem bindings = .ok p)

end Policy

namespace PolicyText

variable {α : Type} {check : PolicyDraft → Except PolicyError α}

/-- The draft that a complete value fills: an array fills the fields in their order. -/
def draft? : Json → Option PolicyDraft
  | .arr items => PolicyDraft.fillInOrder? .empty DraftField.all items
  | v => PolicyDraft.ofJson? v

theorem judge_eq (check : PolicyDraft → Except PolicyError α) (v : Json) :
    judge check v =
      match draft? v with
      | none => .error (.refused none)
      | some d =>
        if isTooLong v then .error .notJson
        else
          match check d with
          | .ok a => .ok a
          | .error e => .error (.refused (some e)) := by
  cases v with
  | _ => rfl

theorem exists_of_judge {v : Json} {a : α} (h : judge check v = .ok a) :
    ∃ d, draft? v = some d ∧ check d = .ok a := by
  rw [judge_eq] at h
  cases hdraft : draft? v with
  | none => simp [hdraft] at h
  | some d =>
    -- A value that is too long is refused before its draft is checked.
    by_cases hlong : isTooLong v = true
    · simp [hdraft, hlong] at h
    · refine ⟨d, rfl, ?_⟩
      cases hcheck : check d with
      | error e => simp [hdraft, hlong, hcheck] at h
      | ok b => simpa [hdraft, hlong, hcheck] using h

/-- What is read from a text is a JSON value whose draft has passed the check. -/
theorem exists_of_read {cs : List Char} {a : α} (h : read check cs = .ok a) :
    ∃ v d, Json.parse? cs = some v ∧ draft? v = some d ∧ check d = .ok a := by
  unfold read at h
  split at h
  · next v hparse =>
    rcases exists_of_judge h with ⟨d, hdraft, hcheck⟩
    exact ⟨v, d, by simp [Json.parse?, hparse, Except.toOption], hdraft, hcheck⟩
  · rcases bind_eq_ok_iff.1 h with ⟨_, _, hfail⟩
    cases hfail
  · cases h

end PolicyText

theorem Policy.exists_of_ofJson {v : Json} {p : Policy} (h : ofJson v = .ok p) :
    ∃ d, PolicyDraft.ofJson? v = some d ∧ d.validate = .ok p := by
  unfold ofJson at h
  split at h
  · cases h
  · next d hdraft => exact ⟨d, hdraft, mapError_eq_ok_iff.1 h⟩

namespace PolicyFile

/-- The settings that a file holds. -/
def table : PolicyFile → Except PolicyFileError Setting.Entries
  | missing => .error .fileNotFound
  | present name bytes =>
    match FileFormat.ofName? name with
    | none => .error .unsupportedFormat
    | some format =>
      match entries? format bytes with
      | none => .error (.parse none)
      | some entries => .ok entries

/-- Loads a policy from settings, under the variables of an environment. -/
def loadTable (entries : Setting.Entries) (stem : String) (bindings : List (String × String)) :
    Except PolicyFileError Policy :=
  policyOf (merged entries (Environment.settings stem bindings))

/-- The variables of an environment come to the settings of a file once these have been read. -/
theorem load_eq (file : PolicyFile) (stem : String) (bindings : List (String × String)) :
    file.load stem bindings = file.table >>= fun entries => loadTable entries stem bindings := by
  cases file with
  | missing => rfl
  | present name bytes =>
    simp only [load, table, loadTable]
    cases FileFormat.ofName? name with
    | none => rfl
    | some format =>
      cases h : entries? format bytes with
      | none => simp [h, bind, Except.bind]
      | some entries => simp [h, bind, Except.bind]

theorem policyOf_eq_ok_iff {settings : Setting.Entries} {p : Policy} :
    policyOf settings = .ok p ↔
      ∃ d, PolicyDraft.ofSettings? settings = some d ∧ d.validate = .ok p := by
  unfold policyOf
  cases PolicyDraft.ofSettings? settings with
  | none => simp
  | some d => simp [mapError_eq_ok_iff]

/-- What is loaded from a file is the settings of the file and the environment, as a draft that has
passed the check. -/
theorem load_eq_ok_iff {file : PolicyFile} {stem : String} {bindings : List (String × String)}
    {p : Policy} :
    file.load stem bindings = .ok p ↔
      ∃ entries d, file.table = .ok entries ∧
        PolicyDraft.ofSettings? (merged entries (Environment.settings stem bindings)) = some d ∧
          d.validate = .ok p := by
  simp only [load_eq, loadTable, bind_eq_ok_iff, policyOf_eq_ok_iff, exists_and_left]

end PolicyFile

namespace Policy

variable {p : Policy}

/-- Every path goes through the check of drafts. -/
theorem Obtainable.exists_validate (h : p.Obtainable) : ∃ d : PolicyDraft, d.validate = .ok p := by
  cases h with
  | built audience fields h => exact ⟨_, h⟩
  | checked d h => exact ⟨d, h⟩
  | text s h =>
    rcases PolicyText.exists_of_read h with ⟨_, d, _, _, hd⟩
    exact ⟨d, hd⟩
  | json v h =>
    rcases exists_of_ofJson h with ⟨d, _, hd⟩
    exact ⟨d, hd⟩
  | file file stem bindings h =>
    rcases PolicyFile.load_eq_ok_iff.1 h with ⟨_, d, _, _, hd⟩
    exact ⟨d, hd⟩

/-- No path yields a policy that allows a symmetric algorithm. -/
theorem Obtainable.isAsymmetric (h : p.Obtainable) {a : Algorithm} (ha : a ∈ p.algorithms) :
    a.isAsymmetric = true := by
  rcases h.exists_validate with ⟨d, hd⟩
  exact PolicyDraft.isAsymmetric_of_validate hd ha

end Policy

end BearerAuth
