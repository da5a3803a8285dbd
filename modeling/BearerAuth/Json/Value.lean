import BearerAuth.Number.Binary64

/-!
# JSON values

A number is an integer or a finite binary64 number, by the way it is written. The members of an
object are a list in the order of the text. A value fresh from a text may repeat a key;
`Json.merged` is the value with one member per key.
-/

namespace BearerAuth

inductive JsonNumber where
  /-- An integer literal from `-2 ^ 63` to `2 ^ 64 - 1`, other than `-0`. -/
  | int (n : Int)
  /-- Every other literal. -/
  | double (x : Number.Binary64)
  deriving DecidableEq, Repr

inductive Json where
  | null
  | bool (b : Bool)
  | num (n : JsonNumber)
  | str (s : String)
  | arr (items : List Json)
  | obj (members : List (String × Json))
  deriving Repr, Inhabited

namespace Json

abbrev Members := List (String × Json)

def ofInt (n : Int) : Json :=
  .num (.int n)

def ofStrings (items : List String) : Json :=
  .arr (items.map .str)

/-- Sets a member: a key that is present keeps its place and takes the new value. -/
def Members.set : Members → String → Json → Members
  | [], key, value => [(key, value)]
  | (k, v) :: rest, key, value =>
    if k = key then (k, value) :: rest else (k, v) :: Members.set rest key value

def Members.get? (members : Members) (key : String) : Option Json :=
  List.lookup key members

/-- The members with repeated keys merged: first place, last value. -/
def Members.merged (members : Members) : Members :=
  members.foldl (fun acc m => acc.set m.1 m.2) []

mutual

/-- The value with the repeated keys of every object merged. -/
def merged : Json → Json
  | .null => .null
  | .bool b => .bool b
  | .num n => .num n
  | .str s => .str s
  | .arr items => .arr (mergedItems items)
  | .obj members => .obj (Members.merged (mergedMembers members))

def mergedItems : List Json → List Json
  | [] => []
  | v :: rest => v.merged :: mergedItems rest

def mergedMembers : List (String × Json) → List (String × Json)
  | [] => []
  | (k, v) :: rest => (k, v.merged) :: mergedMembers rest

end

/-- The members with repeated keys merged, inside the values as well. -/
def Members.mergedDeep (members : Members) : Members :=
  Members.merged (mergedMembers members)

/-! ## Reading parts of a value -/

def string? : Json → Option String
  | .str s => some s
  | _ => none

/-- The texts of an array that holds nothing but strings. -/
def strings? : Json → Option (List String)
  | .arr items => items.mapM string?
  | _ => none

end Json

end BearerAuth
