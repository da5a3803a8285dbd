import BearerAuth.Json.Value

/-!
# Declared members of an object

Readers of records look members up by name. A declared member may stand at most once, `null` counts
as absent for an optional member, and a value of another type is refused. Each reader here fails
with `none`; an absent optional member reads as `some none`.
-/

namespace BearerAuth.Json.Members

/-- The value of a member that stands at most once. -/
def single? (members : Members) (key : String) : Option (Option Json) :=
  match members.filter (fun m => m.1 = key) with
  | [] => some none
  | [m] => some (some m.2)
  | _ => none

/-- An optional member read by `read`. -/
def optional? {α : Type} (read : Json → Option α) (members : Members) (key : String) :
    Option (Option α) :=
  match members.single? key with
  | some none => some none
  | some (some .null) => some none
  | some (some v) => (read v).map some
  | none => none

def required? {α : Type} (read : Json → Option α) (members : Members) (key : String) : Option α :=
  match members.single? key with
  | some (some v) => read v
  | _ => none

end BearerAuth.Json.Members

namespace BearerAuth.Json

/-- A name out of a fixed set: a string, or an object whose only member has that name and the value
`null`. -/
def name? : Json → Option String
  | .str s => some s
  | .obj [(key, .null)] => some key
  | _ => none

end BearerAuth.Json
