import BearerAuth.Proofs.Policy.FirstOccurrences
import BearerAuth.Proofs.Policy.Provenance
import Mathlib.Tactic.MkIffOfInductiveProp

/-!
# What is wrong with a draft

A draft can fail in four ways. They are looked for in a fixed order, and the first one found is the
error: the audience is missing, names stand for no asymmetric algorithm, the audiences are all
blank, the issuers are. The algorithms are judged as a whole, whatever the audiences and issuers
are.
-/

namespace BearerAuth

namespace ListInput

/-- A list is given, and every entry of it is blank. -/
def GivenBlank (given : Option ListInput) : Prop :=
  ∃ input ∈ given, ∀ s ∈ input.entries, Text.trim s = ""

theorem trimmedEntries_eq_nil_iff {input : ListInput} :
    input.trimmedEntries = [] ↔ ∀ s ∈ input.entries, Text.trim s = "" := by
  simp [trimmedEntries, List.filter_eq_nil_iff]

end ListInput

variable {given : Option ListInput} {field : RestrictedList} {e : PolicyError}

theorem checkOptional_restricted_eq_error_iff :
    checkOptional (ListInput.restricted field) given = .error e ↔
      ListInput.GivenBlank given ∧ e = .emptyList field := by
  cases given with
  | none => simp [checkOptional, ListInput.GivenBlank]
  | some input =>
    rw [checkOptional, map_eq_error_iff, ListInput.restricted_eq_error_iff,
      ListInput.trimmedEntries_eq_nil_iff]
    simp [ListInput.GivenBlank]

theorem exists_checkOptional_iff :
    (∃ kept, checkOptional (ListInput.restricted field) given = .ok kept) ↔
      ¬ListInput.GivenBlank given := by
  simp [exists_eq_ok_iff, checkOptional_restricted_eq_error_iff]

namespace PolicyDraft

variable {d : PolicyDraft} {input : ListInput}

/-- The entries of a draft that stand for no asymmetric algorithm. -/
def offenders (d : PolicyDraft) : List String :=
  d.algorithms.elim [] fun input => offendingNames input.trimmedEntries

theorem checkedAlgorithms_eq_error_iff :
    d.checkedAlgorithms = .error e ↔
      d.offenders ≠ [] ∧ e = .invalidAlgorithms d.offenders := by
  unfold checkedAlgorithms offenders
  cases d.algorithms with
  | none => simp
  | some input => exact parseAlgorithms_eq_error_iff

/-- The first thing that is wrong with a draft. -/
@[mk_iff]
inductive FirstFault (d : PolicyDraft) : PolicyError → Prop
  | audience (haudience : d.audience = none) : FirstFault d .missingAudience
  | algorithms (haudience : d.audience ≠ none) (hoffenders : d.offenders ≠ []) :
    FirstFault d (.invalidAlgorithms d.offenders)
  | audiences (haudience : d.audience ≠ none) (hoffenders : d.offenders = [])
    (hblank : ListInput.GivenBlank d.audiences) : FirstFault d (.emptyList .audiences)
  | issuers (haudience : d.audience ≠ none) (hoffenders : d.offenders = [])
    (haudiences : ¬ListInput.GivenBlank d.audiences) (hblank : ListInput.GivenBlank d.issuers) :
    FirstFault d (.emptyList .issuers)

theorem exists_checkedAlgorithms_iff :
    (∃ algorithms, d.checkedAlgorithms = .ok algorithms) ↔ d.offenders = [] := by
  simp [exists_eq_ok_iff, checkedAlgorithms_eq_error_iff]

/-- The error of a draft is the first thing that is wrong with it. -/
theorem validate_eq_error_iff : d.validate = .error e ↔ d.FirstFault e := by
  unfold validate
  cases haudience : d.audience with
  | none =>
    constructor
    · rintro ⟨⟩
      exact .audience haudience
    · intro h
      cases h with
      | audience => rfl
      | algorithms hne | audiences hne | issuers hne => exact absurd haudience hne
  | some audience =>
    have hne : d.audience ≠ none := by simp [haudience]
    -- With an audience, the check fails in the first of its stages that does.
    simp only [bind_eq_error_iff, reduceCtorEq, false_or, Except.ok.injEq, exists_eq_left',
      exists_and_right, exists_checkedAlgorithms_iff, checkedAlgorithms_eq_error_iff,
      checkOptional_restricted_eq_error_iff, exists_checkOptional_iff, pure, Except.pure, and_false,
      exists_false, or_false]
    constructor
    · rintro (⟨hoffenders, rfl⟩ | ⟨hoffenders, ⟨hblank, rfl⟩ | ⟨haudiences, hblank, rfl⟩⟩)
      · exact .algorithms hne hoffenders
      · exact .audiences hne hoffenders hblank
      · exact .issuers hne hoffenders haudiences hblank
    · intro h
      cases h with
      | audience hnone => exact absurd hnone hne
      | algorithms _ hoffenders => exact .inl ⟨hoffenders, rfl⟩
      | audiences _ hoffenders hblank => exact .inr ⟨hoffenders, .inl ⟨hblank, rfl⟩⟩
      | issuers _ hoffenders haudiences hblank =>
        exact .inr ⟨hoffenders, .inr ⟨haudiences, hblank, rfl⟩⟩

theorem exists_validate_eq_ok_iff :
    (∃ p, d.validate = .ok p) ↔ d.audience ≠ none ∧ d.offenders = [] ∧
      ¬ListInput.GivenBlank d.audiences ∧ ¬ListInput.GivenBlank d.issuers := by
  rw [exists_eq_ok_iff]
  simp only [Ne, validate_eq_error_iff]
  constructor
  · intro hfaultless
    have haudience : d.audience ≠ none := fun h => hfaultless _ (.audience h)
    have hoffenders : d.offenders = [] := by
      by_contra h
      exact hfaultless _ (.algorithms haudience h)
    have haudiences : ¬ListInput.GivenBlank d.audiences :=
      fun h => hfaultless _ (.audiences haudience hoffenders h)
    exact ⟨haudience, hoffenders, haudiences,
      fun h => hfaultless _ (.issuers haudience hoffenders haudiences h)⟩
  · rintro ⟨haudience, hoffenders, haudiences, hissuers⟩ e hfault
    cases hfault with
    | audience h => exact haudience h
    | algorithms _ h => exact h hoffenders
    | audiences _ _ h => exact haudiences h
    | issuers _ _ _ h => exact hissuers h

/-- Algorithms are accepted or refused as a whole. A draft whose names of algorithms include some
that stand for no asymmetric algorithm is refused with exactly these, in order and with repetitions,
whatever its audiences and issuers are; only a missing audience is reported before them. Otherwise
blank audiences are reported, then blank issuers, and a policy has the algorithms with the given
names, in order and with repetitions, if only there is a policy. -/
theorem algorithms_judged_as_a_whole (d : PolicyDraft) (input : ListInput) (items : List String)
    (hinput : d.algorithms = some input) (hitems : input.HasEntries items) :
    let entries := (items.map Text.trim).filter (· ≠ "")
    let offenders := entries.filter (· ∉ Algorithm.defaults.map Algorithm.name)
    (d.validate = .error .missingAudience ↔ d.audience = none) ∧
      (∀ names, d.validate = .error (.invalidAlgorithms names) ↔
        d.audience ≠ none ∧ offenders ≠ [] ∧ names = offenders) ∧
      (d.validate = .error (.emptyList .audiences) ↔
        d.audience ≠ none ∧ offenders = [] ∧ ListInput.GivenBlank d.audiences) ∧
      (d.validate = .error (.emptyList .issuers) ↔
        d.audience ≠ none ∧ offenders = [] ∧ ¬ListInput.GivenBlank d.audiences ∧
          ListInput.GivenBlank d.issuers) ∧
      ((∃ p, d.validate = .ok p) ↔
        d.audience ≠ none ∧ offenders = [] ∧ ¬ListInput.GivenBlank d.audiences ∧
          ¬ListInput.GivenBlank d.issuers) ∧
      ∀ p, d.validate = .ok p →
        (∀ a ∈ p.algorithms, a ∈ Algorithm.defaults) ∧
          p.algorithms.map Algorithm.name = entries := by
  intro entries offenders
  obtain rfl : input.entries = items := ListInput.hasEntries_iff.1 hitems
  have hoffenders : d.offenders = offenders := by
    rw [PolicyDraft.offenders, hinput]
    rfl
  -- Each error is the first fault of its kind, and the faults before it are those it excludes.
  rw [← hoffenders]
  refine ⟨?_, ?_, ?_, ?_, exists_validate_eq_ok_iff, ?_⟩
  · simp [validate_eq_error_iff, firstFault_iff]
  · intro names
    simp [validate_eq_error_iff, firstFault_iff]
  · simp [validate_eq_error_iff, firstFault_iff]
  · simp [validate_eq_error_iff, firstFault_iff]
  · intro p hp
    have hchecked : d.checkedAlgorithms = .ok p.algorithms := (validate_eq_ok_iff.1 hp).2.1
    rw [checkedAlgorithms, hinput] at hchecked
    exact parseAlgorithms_eq_ok_iff.1 hchecked

end PolicyDraft

namespace Sample

/-- A draft with four names that are not allowed among its algorithms, one of them twice, and with
blank audiences. -/
def mixedDraft : PolicyDraft :=
  ⟨some "a", some (.text "RS256, HS256,none,, rs256 ,HS256"), some (.text " ,"), none, none⟩

end Sample

/-- Every name that is not allowed is reported, and blank audiences are not looked at before. -/
theorem PolicyDraft.sample_offenders_reported :
    (ListInput.text "RS256, HS256,none,, rs256 ,HS256").HasEntries
        ["RS256", " HS256", "none", "", " rs256 ", "HS256"] ∧
      Sample.mixedDraft.validate =
        .error (.invalidAlgorithms ["HS256", "none", "rs256", "HS256"]) := by
  have hitems : (ListInput.text "RS256, HS256,none,, rs256 ,HS256").HasEntries
      ["RS256", " HS256", "none", "", " rs256 ", "HS256"] :=
    ListInput.hasEntries_iff.2 (by decide +kernel)
  obtain ⟨_, hrefused, _⟩ := algorithms_judged_as_a_whole Sample.mixedDraft _ _ rfl hitems
  exact ⟨hitems, (hrefused _).2 ⟨by decide, by decide +kernel, by decide +kernel⟩⟩

end BearerAuth
