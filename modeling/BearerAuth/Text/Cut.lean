/-!
# Cutting lists

Pieces between separators, and what follows a given beginning.
-/

namespace BearerAuth.Text

/-- The pieces between the elements that satisfy `p`; there is always one more piece than
there are separators. -/
def pieces {α : Type} (p : α → Bool) : List α → List (List α)
  | [] => [[]]
  | c :: cs =>
    if p c then [] :: pieces p cs
    else
      match pieces p cs with
      | [] => [[c]]
      | w :: ws => (c :: w) :: ws

/-- The parts of a text between commas, blank parts included. -/
def commaParts (s : String) : List String :=
  (pieces (· == ',') s.toList).map String.ofList

/-- What follows `lead` in a list that starts with it. -/
def after? : List Char → List Char → Option (List Char)
  | [], cs => some cs
  | _ :: _, [] => none
  | p :: lead, c :: cs => if p = c then after? lead cs else none

theorem after?_eq_some_iff {lead cs rest : List Char} :
    after? lead cs = some rest ↔ cs = lead ++ rest := by
  induction lead generalizing cs with
  | nil => simp [after?]
  | cons p lead ih =>
    cases cs with
    | nil => simp [after?]
    | cons c cs =>
      by_cases hp : p = c
      · simp [after?, hp, ih]
      · have hne : ¬c = p := fun e => hp e.symm
        simp [after?, hp, hne]

end BearerAuth.Text
