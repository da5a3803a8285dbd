import BearerAuth.Json.Parser
import BearerAuth.Settings.Value

/-!
# Settings in JSON

An integer beyond 63 bits counts as a number with a fraction.
-/

namespace BearerAuth.Setting

def ofJsonNumber : JsonNumber → Setting
  | .int n =>
    if n ≤ Number.maxInt64 then .int n
    else .number (SettingNumber.ofDecimal false n.toNat 0)
  | .double x => .number (.finite x)

mutual

def ofJson : Json → Setting
  | .null => .nil
  | .bool b => .bool b
  | .num n => ofJsonNumber n
  | .str s => .text s
  | .arr items => .list (ofJsonItems items)
  | .obj members => .table (ofJsonMembers members)

def ofJsonItems : List Json → List Setting
  | [] => []
  | v :: rest => ofJson v :: ofJsonItems rest

def ofJsonMembers : List (String × Json) → Entries
  | [] => []
  | (k, v) :: rest => (k, ofJson v) :: ofJsonMembers rest

end

/-- The entries of a JSON text that is an object. -/
def ofJsonText? (cs : List Char) : Option Entries :=
  match (Json.parse? cs).map Json.merged with
  | some (.obj members) => some (ofJsonMembers members)
  | _ => none

end BearerAuth.Setting
