import BearerAuth.Text.Utf8

/-!
# UTF-8 piece by piece

A byte string that is well formed ends with a whole character, so what follows it is read for
itself.
-/

namespace BearerAuth.Text.Utf8

variable {p : Option Partial} {bytes more : List UInt8} {cs : List Char}

theorem none_notMem_of_mapM {found : List (Option Char)} (h : found.mapM id = some cs) :
    none ∉ found := by
  induction found generalizing cs with
  | nil => exact List.not_mem_nil
  | cons c found ih =>
    rw [List.mapM_cons] at h
    rcases Option.bind_eq_some_iff.1 h with ⟨d, hc, hrest⟩
    rcases Option.bind_eq_some_iff.1 hrest with ⟨ds, hfound, _⟩
    have hne : none ≠ c := by
      rintro rfl
      cases hc
    exact fun hmem => (List.mem_cons.1 hmem).elim hne (ih hfound)

theorem scanFrom_append (h : none ∉ scanFrom p bytes) :
    scanFrom p (bytes ++ more) = scanFrom p bytes ++ scan more := by
  induction bytes generalizing p with
  | nil =>
    cases p with
    | none => rfl
    | some p => exact absurd (List.mem_singleton_self none) h
  | cons b bytes ih =>
    have hfeed : ∀ l,
        scanFrom p (b :: l) = (feed p b.toNat).1 ++ scanFrom (feed p b.toNat).2 l := by
      intro l
      cases p with
      | none => rfl
      | some p => rfl
    rw [hfeed, List.mem_append, not_or] at h
    rw [List.cons_append, hfeed, hfeed, ih h.2, List.append_assoc]

/-- What follows a whole text is read for itself. -/
theorem decode?_append (h : decode? bytes = some cs) (more : List UInt8) :
    decode? (bytes ++ more) = (decode? more).map (cs ++ ·) := by
  have hscan : scan (bytes ++ more) = scan bytes ++ scan more :=
    scanFrom_append (none_notMem_of_mapM h)
  unfold decode? at h ⊢
  rw [hscan, List.mapM_append, h]
  cases (scan more).mapM id with
  | none => rfl
  | some ds => rfl

end BearerAuth.Text.Utf8
