import BearerAuth.Policy.Basic
import BearerAuth.Proofs.Result
import Mathlib.Data.List.Basic

/-!
# Algorithms by their names

A list of names is read as a whole. Either every name is that of an asymmetric algorithm, and the
algorithms are those with these names, in order and with repetitions; or the names that are not are
reported, in order and with repetitions as well.
-/

namespace BearerAuth

variable {names : List String} {algorithms : List Algorithm} {s : String} {a : Algorithm}
  {e : PolicyError}

namespace Algorithm

theorem mem_defaults_iff : a ∈ defaults ↔ a.isAsymmetric = true := by
  cases a with
  | _ => decide

/-- The names of the algorithms that a policy may allow. -/
def allowedNames : List String :=
  defaults.map name

theorem asymmetricOfName?_eq_some_iff :
    asymmetricOfName? s = some a ↔ a ∈ defaults ∧ a.name = s := by
  rw [asymmetricOfName?, Option.filter_eq_some_iff, mem_defaults_iff, and_comm]
  refine and_congr_right fun _ => ⟨?_, ?_⟩
  · intro h
    simpa using List.find?_some h
  · rintro rfl
    exact ofName?_name a

theorem asymmetricOfName?_eq_none_iff : asymmetricOfName? s = none ↔ s ∉ allowedNames := by
  rw [Option.eq_none_iff_forall_ne_some, allowedNames, List.mem_map, not_exists]
  exact forall_congr' fun a => not_congr asymmetricOfName?_eq_some_iff

/-- Naming algorithms and reading the names back gives the algorithms, if all are asymmetric. -/
theorem filterMap_map_name (h : ∀ a ∈ algorithms, a ∈ defaults) :
    (algorithms.map name).filterMap asymmetricOfName? = algorithms := by
  calc
    (algorithms.map name).filterMap asymmetricOfName?
        = algorithms.filterMap (fun a => asymmetricOfName? a.name) := List.filterMap_map
    _ = algorithms.filterMap some :=
      List.filterMap_congr fun a ha => asymmetricOfName?_eq_some_iff.2 ⟨h a ha, rfl⟩
    _ = algorithms := List.filterMap_some

/-- Reading names and naming what has been read gives the names, if all are allowed. -/
theorem map_name_filterMap (h : ∀ s ∈ names, s ∈ allowedNames) :
    (names.filterMap asymmetricOfName?).map name = names := by
  have hback : ∀ s ∈ names, (asymmetricOfName? s).map name = some s := by
    intro s hs
    rcases List.mem_map.1 (h s hs) with ⟨a, ha, rfl⟩
    rw [asymmetricOfName?_eq_some_iff.2 ⟨ha, rfl⟩, Option.map_some]
  calc
    (names.filterMap asymmetricOfName?).map name
        = names.filterMap (fun s => (asymmetricOfName? s).map name) := List.map_filterMap
    _ = names.filterMap some := List.filterMap_congr hback
    _ = names := List.filterMap_some

end Algorithm

/-- The names that stand for no asymmetric algorithm. -/
def offendingNames (names : List String) : List String :=
  names.filter (· ∉ Algorithm.allowedNames)

theorem offendingNames_eq_nil_iff :
    offendingNames names = [] ↔ ∀ s ∈ names, s ∈ Algorithm.allowedNames := by
  simp [offendingNames, List.filter_eq_nil_iff]

theorem parseAlgorithms_eq (names : List String) :
    parseAlgorithms names =
      if offendingNames names = [] then .ok (names.filterMap Algorithm.asymmetricOfName?)
      else .error (.invalidAlgorithms (offendingNames names)) := by
  have hoffending : names.filter (fun s => (Algorithm.asymmetricOfName? s).isNone) =
      offendingNames names := by
    refine List.filter_congr ?_
    intro s _
    rw [Bool.eq_iff_iff, Option.isNone_iff_eq_none, Algorithm.asymmetricOfName?_eq_none_iff,
      decide_eq_true_iff]
  simp only [parseAlgorithms, hoffending, List.isEmpty_iff]

theorem parseAlgorithms_eq_error_iff :
    parseAlgorithms names = .error e ↔
      offendingNames names ≠ [] ∧ e = .invalidAlgorithms (offendingNames names) := by
  rw [parseAlgorithms_eq]
  split
  · next h => simp [h]
  · next h => simp [h, eq_comm]

/-- Reading algorithms from names is the inverse of naming asymmetric algorithms. -/
theorem parseAlgorithms_eq_ok_iff :
    parseAlgorithms names = .ok algorithms ↔
      (∀ a ∈ algorithms, a ∈ Algorithm.defaults) ∧ algorithms.map Algorithm.name = names := by
  rw [parseAlgorithms_eq]
  constructor
  · intro h
    split at h
    · next hall =>
      obtain rfl : names.filterMap Algorithm.asymmetricOfName? = algorithms := Except.ok.inj h
      refine ⟨?_, Algorithm.map_name_filterMap (offendingNames_eq_nil_iff.1 hall)⟩
      intro a ha
      rcases List.mem_filterMap.1 ha with ⟨s, _, hs⟩
      exact (Algorithm.asymmetricOfName?_eq_some_iff.1 hs).1
    · cases h
  · rintro ⟨hall, rfl⟩
    have hnone : offendingNames (algorithms.map Algorithm.name) = [] := by
      refine offendingNames_eq_nil_iff.2 ?_
      intro s hs
      rcases List.mem_map.1 hs with ⟨a, ha, rfl⟩
      exact List.mem_map_of_mem (hall a ha)
    rw [if_pos hnone, Algorithm.filterMap_map_name hall]

end BearerAuth
