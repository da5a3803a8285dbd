import BearerAuth.Json.Printer
import BearerAuth.Proofs.Number.Layout
import BearerAuth.Proofs.Text.Blank

/-!
# The ends of a compact text

The compact text of a value starts and ends with a visible character: a quote, a bracket, a brace, a
letter of a literal name, or a character of a number.
-/

namespace BearerAuth.Json

theorem isNumberText_writeNumber (n : JsonNumber) : Number.IsNumberText (writeNumber n) := by
  cases n with
  | int n => exact Number.isNumberText_signedDigits n
  | double x => exact Number.isNumberText_render _ x

theorem getLast?_writeItems (items : List Json) : (writeItems items).getLast? = some ']' := by
  induction items with
  | nil => rfl
  | cons v rest ih => rw [writeItems, List.getLast?_cons, List.getLast?_append, ih]; rfl

theorem getLast?_writeMembers (members : Members) :
    (writeMembers members).getLast? = some '\x7d' := by
  induction members with
  | nil => rfl
  | cons m rest ih =>
    rw [writeMembers, List.getLast?_cons, List.getLast?_append, List.getLast?_cons,
      List.getLast?_append, ih]
    rfl

/-- The first and the last character of a text are visible. -/
def HasVisibleEnds (cs : List Char) : Prop :=
  ∃ first last, cs.head? = some first ∧ cs.getLast? = some last ∧
    Text.isBlank first = false ∧ Text.isBlank last = false

theorem hasVisibleEnds_write (v : Json) : HasVisibleEnds v.write := by
  cases v with
  | null => exact ⟨_, _, rfl, rfl, by decide, by decide⟩
  | bool b =>
    cases b with
    | true => exact ⟨_, _, rfl, rfl, by decide, by decide⟩
    | false => exact ⟨_, _, rfl, rfl, by decide, by decide⟩
  | num n =>
    have hnumber := isNumberText_writeNumber n
    have hvisible := hnumber.isBlank_eq_false
    exact ⟨_, _, List.head?_eq_some_head hnumber.ne_nil,
      List.getLast?_eq_some_getLast hnumber.ne_nil,
      hvisible _ (List.head_mem hnumber.ne_nil), hvisible _ (List.getLast_mem hnumber.ne_nil)⟩
  | str s => exact ⟨_, _, rfl, List.getLast?_concat, by decide, by decide⟩
  -- A filled container ends with its bracket, whatever its last entry is.
  | arr items =>
    cases items with
    | nil => exact ⟨_, _, rfl, rfl, by decide, by decide⟩
    | cons v rest =>
      have hlast : (write (.arr (v :: rest))).getLast? = some ']' := by
        rw [write, List.getLast?_cons, List.getLast?_append, getLast?_writeItems]
        rfl
      exact ⟨_, _, rfl, hlast, by decide, by decide⟩
  | obj members =>
    cases members with
    | nil => exact ⟨_, _, rfl, rfl, by decide, by decide⟩
    | cons m rest =>
      have hlast : (write (.obj (m :: rest))).getLast? = some '\x7d' := by
        rw [write, List.getLast?_cons, List.getLast?_append, List.getLast?_cons,
          List.getLast?_append, getLast?_writeMembers]
        rfl
      exact ⟨_, _, rfl, hlast, by decide, by decide⟩

theorem write_ne_nil (v : Json) : v.write ≠ [] := by
  rcases hasVisibleEnds_write v with ⟨first, _, hfirst, _⟩
  intro hnil
  rw [hnil] at hfirst
  cases hfirst

theorem isTrimmed_write (v : Json) : Text.IsTrimmed v.write := by
  rcases hasVisibleEnds_write v with ⟨first, last, hfirst, hlast, hvisible, hvisible'⟩
  constructor
  · intro c hc
    rw [hfirst] at hc
    exact Option.some.inj hc ▸ hvisible
  · intro c hc
    rw [hlast] at hc
    exact Option.some.inj hc ▸ hvisible'

end BearerAuth.Json
