import BearerAuth.Proofs.Json.Merge
import BearerAuth.Proofs.Result
import BearerAuth.Token.Registered
import Mathlib.Tactic.MkIffOfInductiveProp

/-!
# What the comparison of registered claims establishes

`Registered.Accepted` collects what is known of the members of a claims object once the comparison
with a policy has succeeded, and `check_eq_ok_iff` says that nothing less and nothing more is
compared. A claim that cannot be read in the form that its comparison needs is not compared: the
texts that a claim names and the texts that are compared agree only for a text or a list of nothing
but texts. The comparison is made with the members as they are written, and
`accepted_mergedDeep_iff` carries it over to the merged ones.
-/

namespace BearerAuth

namespace Registered

variable {α : Type} {policy : Policy} {subject : Option String} {now : Nat}
  {members : Json.Members} {key : String}

/-! ## Reading one claim -/

theorem reading_eq_absent_iff {read : Json → Option α} :
    reading read members key = .absent ↔ members.get? key = none := by
  unfold reading
  cases members.get? key with
  | none => simp
  | some v => cases h : read v with
    | none => simp [h]
    | some a => simp [h]

theorem reading_eq_value_iff {read : Json → Option α} {a : α} :
    reading read members key = .value a ↔ ∃ v, members.get? key = some v ∧ read v = some a := by
  unfold reading
  cases members.get? key with
  | none => simp
  | some v => cases h : read v with
    | none => simp [h]
    | some b => simp [h]

/-! ## The texts of a claim -/

/-- The texts that a claim names: the claim itself, or the texts among the entries of a list. -/
def named : Json → List String
  | .str s => [s]
  | .arr items => items.filterMap Json.string?
  | _ => []

/-- A claim that is a text, or a list of nothing but texts, can be compared with a list of texts. -/
def IsComparable (v : Json) : Prop :=
  (∃ s, v = .str s) ∨ ∃ items, v = .arr items ∧ ∀ item ∈ items, ∃ s, item = .str s

theorem string?_eq_some_iff {v : Json} {s : String} : v.string? = some s ↔ v = .str s := by
  cases v with
  | str t => simp [Json.string?]
  | _ => simp [Json.string?]

theorem mapM_string?_eq_some_iff {items : List Json} {texts : List String} :
    items.mapM Json.string? = some texts ↔ items = texts.map .str := by
  induction items generalizing texts with
  | nil => cases texts with
    | nil => simp
    | cons s texts => simp
  | cons item items ih =>
    rw [List.mapM_cons]
    cases texts with
    | nil => cases item.string? with
      | none => simp
      | some s => cases items.mapM Json.string? with
        | none => simp
        | some rest => simp
    | cons s texts =>
      simp only [List.map_cons, List.cons.injEq, ← ih, ← string?_eq_some_iff]
      cases item.string? with
      | none => simp
      | some t => cases items.mapM Json.string? with
        | none => simp
        | some rest => simp

theorem texts?_eq_some_iff {v : Json} {texts : List String} :
    texts? v = some texts ↔ (∃ s, v = .str s ∧ texts = [s]) ∨ v = .arr (texts.map .str) := by
  cases v with
  | str s => simp [texts?, eq_comm]
  | arr items => simp [texts?, Json.strings?, mapM_string?_eq_some_iff]
  | _ => simp [texts?, Json.strings?]

/-- What is compared is exactly what the claim names. -/
theorem named_eq_of_texts? {v : Json} {texts : List String} (h : texts? v = some texts) :
    named v = texts := by
  rcases texts?_eq_some_iff.1 h with ⟨s, rfl, rfl⟩ | rfl
  · rfl
  · simp [named, List.filterMap_map, Function.comp_def, Json.string?]

theorem isComparable_iff {v : Json} : IsComparable v ↔ texts? v = some (named v) := by
  constructor
  · rintro (⟨s, rfl⟩ | ⟨items, rfl, hall⟩)
    · rfl
    · refine texts?_eq_some_iff.2 (.inr ?_)
      -- Nothing is dropped from a list of nothing but texts.
      have hitems : (items.filterMap Json.string?).map Json.str = items := by
        induction items with
        | nil => rfl
        | cons item items ih =>
          rcases hall _ List.mem_cons_self with ⟨s, rfl⟩
          simp [Json.string?, ih fun item h => hall item (List.mem_cons_of_mem _ h)]
      simp [named, hitems]
  · intro h
    rcases texts?_eq_some_iff.1 h with ⟨s, rfl, _⟩ | harr
    · exact .inl ⟨s, rfl⟩
    · refine .inr ⟨_, harr, ?_⟩
      intro item hitem
      rcases List.mem_map.1 hitem with ⟨s, _, rfl⟩
      exact ⟨s, rfl⟩

@[simp] theorem named_merged (v : Json) : named v.merged = named v := by
  cases v with
  | arr items =>
    have hcomp : Json.string? ∘ Json.merged = Json.string? := funext Json.string?_merged
    rw [Json.merged, named, named, Json.mergedItems_eq_map, List.filterMap_map, hcomp]
  | _ => rfl

@[simp] theorem isComparable_merged {v : Json} : IsComparable v.merged ↔ IsComparable v := by
  cases v with
  | arr items => simp [IsComparable, Json.merged, Json.mergedItems_eq_map]
  | _ => simp [IsComparable, Json.merged]

/-! ## The comparison as a whole -/

/-- What the comparison of the registered claims has established once it succeeds. -/
@[mk_iff] structure Accepted (policy : Policy) (subject : Option String) (now : Nat)
    (members : Json.Members) : Prop where
  /-- The expiry is there and has not passed, counting the leeway. -/
  unexpired : ∃ expiry, reading seconds? members "exp" = .value expiry ∧
    now ≤ expiry + policy.leeway.toNat
  /-- The start of validity, where there is one, has come, counting the leeway. -/
  started : reading seconds? members "nbf" = .absent ∨
    ∃ start, reading seconds? members "nbf" = .value start ∧ start ≤ now + policy.leeway.toNat
  /-- A subject that can be compared is the one asked for. -/
  subject_eq : ∀ wanted ∈ subject, ∀ s, members.get? "sub" = some (.str s) → s = wanted
  /-- An issuer that can be compared is one of those allowed. -/
  issuer_mem : ∀ names ∈ policy.issuers, ∀ v, members.get? "iss" = some v → IsComparable v →
    ∃ s ∈ named v, s ∈ names
  /-- An audience that can be compared is one of those allowed. -/
  audience_mem : ∀ names ∈ policy.audiences, ∀ v, members.get? "aud" = some v → IsComparable v →
    ∃ s ∈ named v, s ∈ names

theorem checkTimes_eq_ok_iff {leeway : Nat} {u : Unit} :
    checkTimes leeway now members = .ok u ↔
      (∃ expiry, reading seconds? members "exp" = .value expiry ∧ now ≤ expiry + leeway) ∧
        (reading seconds? members "nbf" = .absent ∨
          ∃ start, reading seconds? members "nbf" = .value start ∧ start ≤ now + leeway) := by
  unfold checkTimes
  -- Only a readable expiry gets past the first reading; the second one may also be absent.
  cases reading seconds? members "exp" with
  | absent => simp
  | unusable => simp
  | value expiry => cases reading seconds? members "nbf" with
    | absent => simp
    | unusable => simp
    | value start =>
      by_cases hexp : expiry + leeway < now
      · have hlate : ¬now ≤ expiry + leeway := by omega
        simp [hexp, hlate]
      · have hopen : now ≤ expiry + leeway := by omega
        simp [hexp, hopen]

theorem checkSubject_eq_ok_iff {u : Unit} :
    checkSubject subject members = .ok u ↔
      ∀ wanted ∈ subject, ∀ s, members.get? "sub" = some (.str s) → s = wanted := by
  have hread : ∀ s, members.get? "sub" = some (.str s) ↔
      reading Json.string? members "sub" = .value s := by
    intro s
    simp [reading_eq_value_iff, string?_eq_some_iff]
  simp only [hread]
  unfold checkSubject
  cases subject with
  | none => simp
  | some wanted => cases reading Json.string? members "sub" with
    | absent => simp
    | unusable => simp
    | value s => simp

theorem checkTexts_eq_ok_iff {allowed : Option (List String)} {error : TokenError} {u : Unit} :
    checkTexts allowed error key members = .ok u ↔
      ∀ names ∈ allowed, ∀ v, members.get? key = some v → IsComparable v →
        ∃ s ∈ named v, s ∈ names := by
  have hread : ∀ v, members.get? key = some v → (IsComparable v ↔
      reading texts? members key = .value (named v)) := by
    intro v hv
    simp [reading_eq_value_iff, hv, isComparable_iff]
  unfold checkTexts
  cases allowed with
  | none => simp
  | some names => cases hr : reading texts? members key with
    | absent => simp [reading_eq_absent_iff.1 hr]
    -- A claim that is there without being read cannot be compared.
    | unusable =>
      simp only [Option.mem_some_iff, forall_eq', true_iff]
      intro v hv hcomparable
      rw [(hread v hv).1 hcomparable] at hr
      cases hr
    | value items =>
      rcases reading_eq_value_iff.1 hr with ⟨v, hv, hitems⟩
      have hnamed : named v = items := named_eq_of_texts? hitems
      have hcomparable : IsComparable v := isComparable_iff.2 (hnamed ▸ hitems)
      simp [hv, hnamed, hcomparable]

/-- The comparison succeeds exactly on the members that it can read and accepts. -/
theorem check_eq_ok_iff {u : Unit} :
    check policy subject now members = .ok u ↔
      isReadable members = true ∧ Accepted policy subject now members := by
  unfold check
  by_cases hreadable : isReadable members = true
  · simp only [hreadable, if_true, bind_eq_ok_iff, checkTimes_eq_ok_iff, checkSubject_eq_ok_iff,
      checkTexts_eq_ok_iff]
    constructor
    · rintro ⟨_, _, _, ⟨hexp, hnbf⟩, _, hsub, _, hiss, haud⟩
      exact ⟨trivial, hexp, hnbf, hsub, hiss, haud⟩
    · rintro ⟨_, h⟩
      exact ⟨(), trivial, (), ⟨h.unexpired, h.started⟩, (), h.subject_eq, (), h.issuer_mem,
        h.audience_mem⟩
  · simp [hreadable, bind, Except.bind]

/-! ## What a readable object is like -/

/-- A registered claim of a readable object stands at most once. -/
theorem length_filter_le_one (h : isReadable members = true) (hkey : key ∈ keys) :
    (members.filter fun m => m.1 = key).length ≤ 1 := by
  simp only [isReadable, Bool.and_eq_true, List.all_eq_true, decide_eq_true_eq] at h
  exact h.1 key hkey

/-- So merging its repeated keys does not change which value a registered claim has. -/
theorem get?_mergedDeep (h : isReadable members = true) (hkey : key ∈ keys) :
    members.mergedDeep.get? key = (members.get? key).map Json.merged :=
  Json.Members.get?_mergedDeep (length_filter_le_one h hkey)

@[simp] theorem seconds?_merged (v : Json) : seconds? v.merged = seconds? v := by
  cases v with
  | _ => rfl

/-- A comparison that does not look inside arrays and objects reads the merged members as the
written ones. -/
theorem reading_mergedDeep {read : Json → Option α} (hread : ∀ v : Json, read v.merged = read v)
    (h : isReadable members = true) (hkey : key ∈ keys) :
    reading read members.mergedDeep key = reading read members key := by
  unfold reading
  rw [get?_mergedDeep h hkey]
  cases members.get? key with
  | none => rfl
  | some v => simp [hread]

/-- The claims that are handed out are accepted exactly when the written ones are. -/
theorem accepted_mergedDeep_iff (h : isReadable members = true) :
    Accepted policy subject now members.mergedDeep ↔ Accepted policy subject now members := by
  -- Each of the five claims reads the same before and after the merging.
  have hexp : reading seconds? members.mergedDeep "exp" = reading seconds? members "exp" :=
    reading_mergedDeep seconds?_merged h (by decide)
  have hnbf : reading seconds? members.mergedDeep "nbf" = reading seconds? members "nbf" :=
    reading_mergedDeep seconds?_merged h (by decide)
  have hsub : ∀ s, members.mergedDeep.get? "sub" = some (.str s) ↔
      members.get? "sub" = some (.str s) := by
    intro s
    simp [get?_mergedDeep h (show "sub" ∈ keys by decide)]
  have htexts : ∀ key ∈ keys, ∀ names : List String,
      (∀ v, members.mergedDeep.get? key = some v → IsComparable v → ∃ s ∈ named v, s ∈ names) ↔
        ∀ v, members.get? key = some v → IsComparable v → ∃ s ∈ named v, s ∈ names := by
    intro key hkey names
    simp [get?_mergedDeep h hkey]
  rw [accepted_iff, accepted_iff, hexp, hnbf]
  simp only [hsub, htexts "iss" (by decide), htexts "aud" (by decide)]

end Registered

end BearerAuth
