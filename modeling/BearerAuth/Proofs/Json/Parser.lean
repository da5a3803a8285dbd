import BearerAuth.Json.Parser
import BearerAuth.Proofs.Json.Token

/-!
# Compact texts read back

The tokens of a value are put together to this value wherever a value may start, provided that its
containers nest no deeper than a reader follows. So the compact text of a value is read as the
value, where its numbers are integers of 64 bits.
-/

namespace BearerAuth.Json

/-- The containers of the value nest at most so many levels deep. -/
inductive NestsWithin : Nat → Json → Prop
  | null {levels : Nat} : NestsWithin levels .null
  | bool {levels : Nat} (b : Bool) : NestsWithin levels (.bool b)
  | num {levels : Nat} (n : JsonNumber) : NestsWithin levels (.num n)
  | str {levels : Nat} (s : String) : NestsWithin levels (.str s)
  | arr {levels : Nat} {items : List Json} (h : ∀ v ∈ items, NestsWithin levels v) :
    NestsWithin (levels + 1) (.arr items)
  | obj {levels : Nat} {members : Members} (h : ∀ m ∈ members, NestsWithin levels m.2) :
    NestsWithin (levels + 1) (.obj members)

variable {place place' : Place} {stack stack' : List Frame} {t : Token} {ts : List Token}
  {v : Json} {levels : Nat}

theorem IsPlain.nestsWithin (h : IsPlain levels v) : NestsWithin levels v := by
  induction h with
  | null => exact .null
  | bool b => exact .bool b
  | int h => exact .num _
  | str s => exact .str s
  | arr _ ih => exact .arr ih
  | obj _ ih => exact .obj ih

theorem parseFrom_cons (h : advance place stack t = some (place', stack')) :
    parseFrom place stack (t :: ts) = parseFrom place' stack' ts := by
  cases place with
  | after v =>
    cases stack with
    -- Nothing may follow a value that is not in a container.
    | nil => cases h
    | cons frame stack => simp [parseFrom, h]
  | _ => simp [parseFrom, h]

/-- A value may start here. -/
def Place.IsStart (place : Place) : Prop :=
  place = .value ∨ place = .firstItem

theorem Place.IsStart.advance_eq (hplace : place.IsStart) (ht : t ≠ .closeArray) :
    advance place stack t = startValue stack t := by
  rcases hplace with rfl | rfl
  · simp [advance]
  · simp [advance, ht]

/-- The tokens of a value are put together to it wherever a value may start, provided that the
containers around it leave so many levels. -/
def Assembles (levels : Nat) (v : Json) : Prop :=
  ∀ place stack ts, place.IsStart → stack.length + levels ≤ maxDepth →
    parseFrom place stack (writtenTokens v ++ ts) = parseFrom (.after v) stack ts

theorem assembles_of_scalar (hv : writtenTokens v = [t]) (ht : t.scalar? = some v) :
    Assembles levels v := by
  intro place stack ts hplace _
  have hne : t ≠ .closeArray := by
    rintro rfl
    cases ht
  have hadvance : advance place stack t = some (.after v, stack) := by
    rw [hplace.advance_eq hne]
    simp [startValue, ht]
  rw [hv, List.singleton_append, parseFrom_cons hadvance]

theorem parseFrom_itemTokens {items done : List Json} (h : ∀ w ∈ items, Assembles levels w)
    (hstack : stack.length + 1 + levels ≤ maxDepth) :
    parseFrom (.after v) (.array done :: stack) (itemTokens items ++ ts) =
      parseFrom (.after (.arr ((v :: done).reverse ++ items))) stack ts := by
  induction items generalizing v done with
  | nil =>
    have hclose : advance (.after v) (.array done :: stack) .closeArray =
        some (.after (.arr (v :: done).reverse), stack) := rfl
    rw [itemTokens, List.singleton_append, parseFrom_cons hclose, List.append_nil]
  | cons w items ih =>
    rcases List.forall_mem_cons.1 h with ⟨hw, hitems⟩
    have hcomma : advance (.after v) (.array done :: stack) .comma =
        some (.value, .array (v :: done) :: stack) := rfl
    rw [itemTokens, List.cons_append, List.append_assoc, parseFrom_cons hcomma,
      hw .value (.array (v :: done) :: stack) _ (.inl rfl) hstack, ih hitems, List.reverse_cons,
      List.append_assoc, List.singleton_append]

theorem parseFrom_member {members : Members} {key : Option String} {k : String}
    (hplace : advance place (.object members key :: stack) (.str k) =
      some (.colon, .object members (some k) :: stack))
    (hv : Assembles levels v) (hstack : stack.length + 1 + levels ≤ maxDepth) :
    parseFrom place (.object members key :: stack)
        (.str k :: .colon :: (writtenTokens v ++ ts)) =
      parseFrom (.after v) (.object members (some k) :: stack) ts := by
  have hcolon : advance .colon (.object members (some k) :: stack) .colon =
      some (.value, .object members (some k) :: stack) := rfl
  rw [parseFrom_cons hplace, parseFrom_cons hcolon,
    hv .value (.object members (some k) :: stack) ts (.inl rfl) hstack]

theorem parseFrom_memberTokens {members done : Members} {k : String}
    (h : ∀ m ∈ members, Assembles levels m.2) (hstack : stack.length + 1 + levels ≤ maxDepth) :
    parseFrom (.after v) (.object done (some k) :: stack) (memberTokens members ++ ts) =
      parseFrom (.after (.obj (((k, v) :: done).reverse ++ members))) stack ts := by
  induction members generalizing k v done with
  | nil =>
    have hclose : advance (.after v) (.object done (some k) :: stack) .closeObject =
        some (.after (.obj ((k, v) :: done).reverse), stack) := rfl
    rw [memberTokens, List.singleton_append, parseFrom_cons hclose, List.append_nil]
  | cons m members ih =>
    rcases m with ⟨k', w⟩
    rcases List.forall_mem_cons.1 h with ⟨hw, hmembers⟩
    have hcomma : advance (.after v) (.object done (some k) :: stack) .comma =
        some (.key, .object ((k, v) :: done) none :: stack) := rfl
    rw [memberTokens]
    simp only [List.cons_append, List.append_assoc]
    rw [parseFrom_cons hcomma, parseFrom_member rfl hw hstack, ih hmembers, List.reverse_cons,
      List.append_assoc, List.singleton_append]

theorem NestsWithin.assembles (h : NestsWithin levels v) : Assembles levels v := by
  induction h with
  | null => exact assembles_of_scalar rfl rfl
  | bool b => exact assembles_of_scalar rfl rfl
  | num n => exact assembles_of_scalar rfl rfl
  | str s => exact assembles_of_scalar rfl rfl
  -- A container takes one of the levels that are left and leaves the others to what is in it.
  | @arr levels items _ ih =>
    intro place stack ts hplace hstack
    have hroom : stack.length < maxDepth := by omega
    have hopen : advance place stack .openArray = some (.firstItem, .array [] :: stack) := by
      rw [hplace.advance_eq (by simp)]
      simp [startValue, Token.scalar?, hroom]
    cases items with
    | nil =>
      have hclose : advance .firstItem (.array [] :: stack) .closeArray =
          some (.after (.arr []), stack) := rfl
      rw [writtenTokens, List.cons_append, List.singleton_append, parseFrom_cons hopen,
        parseFrom_cons hclose]
    | cons v items =>
      rcases List.forall_mem_cons.1 ih with ⟨hv, hitems⟩
      have hstack' : stack.length + 1 + levels ≤ maxDepth := by omega
      rw [writtenTokens, List.cons_append, List.append_assoc, parseFrom_cons hopen,
        hv .firstItem (.array [] :: stack) _ (.inr rfl) hstack',
        parseFrom_itemTokens hitems hstack']
      rfl
  | @obj levels members _ ih =>
    intro place stack ts hplace hstack
    have hroom : stack.length < maxDepth := by omega
    have hopen : advance place stack .openObject =
        some (.firstKey, .object [] none :: stack) := by
      rw [hplace.advance_eq (by simp)]
      simp [startValue, Token.scalar?, hroom]
    cases members with
    | nil =>
      have hclose : advance .firstKey (.object [] none :: stack) .closeObject =
          some (.after (.obj []), stack) := rfl
      rw [writtenTokens, List.cons_append, List.singleton_append, parseFrom_cons hopen,
        parseFrom_cons hclose]
    | cons m members =>
      rcases m with ⟨k, v⟩
      rcases List.forall_mem_cons.1 ih with ⟨hv, hmembers⟩
      have hstack' : stack.length + 1 + levels ≤ maxDepth := by omega
      rw [writtenTokens]
      simp only [List.cons_append, List.append_assoc]
      rw [parseFrom_cons hopen, parseFrom_member rfl hv hstack',
        parseFrom_memberTokens hmembers hstack']
      rfl

theorem NestsWithin.parseFrom_writtenTokens (h : NestsWithin maxDepth v) :
    parseFrom .value [] (writtenTokens v) = .ok v := by
  have hall := h.assembles .value [] [] (.inl rfl) (by simp)
  simpa [parseFrom] using hall

/-- The compact text of a value is read as the value. -/
theorem parse?_write (h : IsPlain maxDepth v) : parse? v.write = some v := by
  have hscan : tokens v.write = writtenTokens v := by
    have hall := h.scans [] (by simp [EndsValue])
    simpa [tokens, tokensFrom, finish] using hall
  rw [parse?, parse, hscan, h.nestsWithin.parseFrom_writtenTokens]
  rfl

end BearerAuth.Json
