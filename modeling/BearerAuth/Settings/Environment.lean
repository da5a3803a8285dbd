import BearerAuth.Settings.Place

/-!
# Environment variables as settings

A variable belongs to a policy when its name starts with a given stem and an underscore, letter case
aside. What follows is the key, in lower case, and two underscores in it lead into a table. The
value has the type that it can be read as.
-/

namespace BearerAuth.Environment

/-- The stem of the variables when nothing else is said. -/
def defaultStem : String := "FACTORIA_AUTH"

/-- Two underscores become a dot. -/
def dotted : List Char → List Char
  | '_' :: '_' :: cs => '.' :: dotted cs
  | c :: cs => c :: dotted cs
  | [] => []

/-- The key that the name of a variable stands for, when the variable counts. -/
def key? (stem name : String) : Option String :=
  (Text.after? (Text.lowerChars (stem.toList ++ ['_'])) (Text.lowerChars name.toList)).map fun cs =>
    String.ofList (dotted cs)

/-- The typed value of a variable: a truth value, an integer, a number or a text. -/
def value (s : String) : Setting :=
  let word := Text.lower s
  if word = "true" then .bool true
  else if word = "false" then .bool false
  else
    match Number.int64? s.toList with
    | some n => .int n
    | none =>
      match SettingNumber.ofChars? s.toList with
      | some x => .number x
      | none => .text s

/-- The settings that variables hold, each given by its name and its text. -/
def settings (stem : String) (bindings : List (String × String)) : Setting.Entries :=
  bindings.filterMap fun (name, s) => (key? stem name).map fun key => (key, value s)

end BearerAuth.Environment
