import BearerAuth.Policy.Json
import BearerAuth.Settings.Number

/-!
# Settings

Settings are what files and environment variables hold before they are known to be a policy. A
scalar in the place of a text or a number is converted; a list has to be a list of texts, or one
text.
-/

namespace BearerAuth

inductive Setting where
  | nil
  | bool (b : Bool)
  /-- An integer of 64 bits. -/
  | int (n : Int)
  | number (x : SettingNumber)
  | text (s : String)
  | list (items : List Setting)
  | table (entries : List (String × Setting))
  deriving Repr, Inhabited

namespace Setting

abbrev Entries := List (String × Setting)

/-- Sets an entry: a key that is present keeps its place and takes the new value. -/
def Entries.set : Entries → String → Setting → Entries
  | [], key, value => [(key, value)]
  | (k, v) :: rest, key, value =>
    if k = key then (k, value) :: rest else (k, v) :: Entries.set rest key value

def Entries.get? (entries : Entries) (key : String) : Option Setting :=
  List.lookup key entries

/-! ## Conversions -/

def asText? : Setting → Option String
  | bool b => some (if b then "true" else "false")
  | int n => some (Number.intText n)
  | number x => some x.text
  | text s => some s
  | nil | list _ | table _ => none

def truthWords : List String :=
  ["true", "on", "yes"]

def falsehoodWords : List String :=
  ["false", "off", "no"]

/-- The value of digits after an optional plus sign. -/
def digits? : List Char → Option Nat
  | '+' :: cs => Number.digitsValue? cs
  | cs => Number.digitsValue? cs

def countOfText? (s : String) : Option Nat :=
  let word := Text.lower s
  if truthWords.contains word then some 1
  else if falsehoodWords.contains word then some 0
  else (digits? s.toList).filter (· ≤ Number.maxUInt64)

def asCount? : Setting → Option UInt64
  | bool b => some (if b then 1 else 0)
  | int n => if 0 ≤ n then some (UInt64.ofNat n.toNat) else none
  | number x => some (UInt64.ofNat x.count)
  | text s => (countOfText? s).map UInt64.ofNat
  | nil | list _ | table _ => none

def plainText? : Setting → Option String
  | text s => some s
  | _ => none

/-- A list of a policy: one text or a list of texts. -/
def asList? : Setting → Option ListInput
  | text s => some (.text s)
  | list items => (items.mapM plainText?).map .list
  | _ => none

/-- Reads a value unless there is none. -/
def unlessNil? {α : Type} (read : Setting → Option α) : Setting → Option (Option α)
  | nil => some none
  | v => (read v).map some

end Setting

namespace PolicyDraft

/-- Gives a field the value that it has in settings, unless the value is refused. -/
def putSetting? (d : PolicyDraft) (v : Setting) : DraftField → Option PolicyDraft
  | .audience => (Setting.unlessNil? Setting.asText? v).map fun a => { d with audience := a }
  | .algorithms => (Setting.unlessNil? Setting.asList? v).map fun a => { d with algorithms := a }
  | .audiences => (Setting.unlessNil? Setting.asList? v).map fun a => { d with audiences := a }
  | .issuers => (Setting.unlessNil? Setting.asList? v).map fun a => { d with issuers := a }
  | .leeway => (Setting.unlessNil? Setting.asCount? v).map fun a => { d with leeway := a }

/-- Fills a draft from the entries of a table, which all have to be fields. -/
def fillSettings? (d : PolicyDraft) : Setting.Entries → Option PolicyDraft
  | [] => some d
  | (key, v) :: rest =>
    match (DraftField.ofKey? key).bind (d.putSetting? v) with
    | none => none
    | some d => fillSettings? d rest

def ofSettings? (entries : Setting.Entries) : Option PolicyDraft :=
  fillSettings? empty entries

end PolicyDraft

end BearerAuth
