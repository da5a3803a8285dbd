import BearerAuth.Json.Value

/-!
# Equality of values

JSON values can be compared by evaluation: the comparison walks through both values at once, and it
succeeds exactly on equal ones.
-/

namespace BearerAuth.Json

mutual

def beq : Json → Json → Bool
  | .null, .null => true
  | .bool a, .bool b => a == b
  | .num m, .num n => m == n
  | .str s, .str t => s == t
  | .arr vs, .arr ws => beqItems vs ws
  | .obj ms, .obj ns => beqMembers ms ns
  | _, _ => false

def beqItems : List Json → List Json → Bool
  | [], [] => true
  | v :: vs, w :: ws => v.beq w && beqItems vs ws
  | _, _ => false

def beqMembers : List (String × Json) → List (String × Json) → Bool
  | [], [] => true
  | (k, v) :: ms, (l, w) :: ns => k == l && v.beq w && beqMembers ms ns
  | _, _ => false

end

-- The recursion is on the left value; the right one is only split to see whether it has its shape.
mutual

theorem beq_iff : ∀ {v w : Json}, v.beq w = true ↔ v = w
  | .null, w => by cases w with | _ => simp [beq]
  | .bool a, w => by cases w with | _ => simp [beq]
  | .num n, w => by cases w with | _ => simp [beq]
  | .str s, w => by cases w with | _ => simp [beq]
  | .arr vs, w => by
    cases w with
    | arr ws => simpa [beq] using beqItems_iff
    | _ => simp [beq]
  | .obj ms, w => by
    cases w with
    | obj ns => simpa [beq] using beqMembers_iff
    | _ => simp [beq]

theorem beqItems_iff : ∀ {vs ws : List Json}, beqItems vs ws = true ↔ vs = ws
  | [], ws => by cases ws with | _ => simp [beqItems]
  | v :: vs, ws => by
    cases ws with
    | nil => simp [beqItems]
    | cons w ws => simp [beqItems, @beq_iff v w, @beqItems_iff vs ws]

theorem beqMembers_iff : ∀ {ms ns : List (String × Json)}, beqMembers ms ns = true ↔ ms = ns
  | [], ns => by cases ns with | _ => simp [beqMembers]
  | (k, v) :: ms, ns => by
    cases ns with
    | nil => simp [beqMembers]
    | cons n ns => simp [beqMembers, Prod.ext_iff, @beq_iff v n.2, @beqMembers_iff ms ns]

end

instance : DecidableEq Json := fun _ _ =>
  decidable_of_iff _ beq_iff

end BearerAuth.Json
