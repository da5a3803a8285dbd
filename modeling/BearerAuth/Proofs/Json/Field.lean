import BearerAuth.Json.Field

/-!
# What declared members say

A reader of a declared member accepts an object only if the member stands once, so every member of
that name in an accepted object has the value that was read. An optional member may also be absent
or `null`; both read as no value.
-/

namespace BearerAuth.Json.Members

variable {α : Type} {read : Json → Option α} {members : Members} {key : String} {v : Json} {a : α}

theorem single?_eq_some_none_iff :
    members.single? key = some none ↔ ∀ m ∈ members, m.1 ≠ key := by
  have hnil : members.filter (fun m => m.1 = key) = [] ↔ ∀ m ∈ members, m.1 ≠ key := by
    simp [List.filter_eq_nil_iff]
  rw [← hnil]
  unfold single?
  cases members.filter fun m => m.1 = key with
  | nil => simp
  | cons m rest => cases rest with
    | nil => simp
    | cons m' rest => simp

theorem single?_eq_some_some_iff :
    members.single? key = some (some v) ↔ members.filter (fun m => m.1 = key) = [(key, v)] := by
  unfold single?
  cases hf : members.filter fun m => m.1 = key with
  | nil => simp
  | cons m rest =>
    -- The filter keeps members of this key only, so the name adds nothing to the value.
    have hkey : m.1 = key := by
      have hm : m ∈ members.filter fun m => m.1 = key := by simp [hf]
      simpa using (List.mem_filter.1 hm).2
    cases rest with
    | nil => simp [Prod.ext_iff, hkey]
    | cons m' rest => simp

theorem required?_eq_some_iff :
    members.required? read key = some a ↔
      ∃ v, members.filter (fun m => m.1 = key) = [(key, v)] ∧ read v = some a := by
  simp only [← single?_eq_some_some_iff]
  unfold required?
  cases members.single? key with
  | none => simp
  | some found => cases found with
    | none => simp
    | some v => simp

/-- Whatever stands under the name of a required member is what has been read. -/
theorem read_of_mem_of_required? (h : members.required? read key = some a)
    (hmem : (key, v) ∈ members) : read v = some a := by
  rcases required?_eq_some_iff.1 h with ⟨w, hfilter, hread⟩
  have hv : (key, v) ∈ members.filter fun m => m.1 = key := List.mem_filter.2 ⟨hmem, by simp⟩
  have hvw : v = w := by simpa [hfilter] using hv
  exact hvw ▸ hread

/-- What an optional member says. -/
inductive Declares (read : Json → Option α) (members : Members) (key : String) : Option α → Prop
  | absent (h : ∀ m ∈ members, m.1 ≠ key) : Declares read members key none
  | null (h : members.filter (fun m => m.1 = key) = [(key, .null)]) : Declares read members key none
  | value {v : Json} {a : α} (h : members.filter (fun m => m.1 = key) = [(key, v)])
    (hv : v ≠ .null) (hread : read v = some a) : Declares read members key (some a)

theorem optional?_eq_some_iff {found : Option α} :
    members.optional? read key = some found ↔ members.Declares read key found := by
  constructor
  · intro h
    unfold optional? at h
    cases hsingle : members.single? key with
    | none => simp [hsingle] at h
    | some held =>
      cases held with
      | none =>
        obtain rfl : none = found := by simpa [hsingle] using h
        exact .absent (single?_eq_some_none_iff.1 hsingle)
      | some v =>
        have hfilter := single?_eq_some_some_iff.1 hsingle
        by_cases hv : v = .null
        · subst hv
          obtain rfl : none = found := by simpa [hsingle] using h
          exact .null hfilter
        · obtain ⟨a, hread, rfl⟩ : ∃ a, read v = some a ∧ some a = found := by
            simpa [hsingle, hv] using h
          exact .value hfilter hv hread
  · intro h
    unfold optional?
    cases h with
    | absent habsent => simp [single?_eq_some_none_iff.2 habsent]
    | null hfilter => simp [single?_eq_some_some_iff.2 hfilter]
    | value hfilter hv hread => simp [single?_eq_some_some_iff.2 hfilter, hread]

end BearerAuth.Json.Members
