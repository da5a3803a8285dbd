import BearerAuth.Settings.Value
import BearerAuth.Text.Blank

/-!
# Places in settings

A key names a place: names with dots between them lead into tables, and an index in brackets leads
into a list. A key that is not of this form stands for itself. Putting a value in a place makes the
tables and lists on the way.
-/

namespace BearerAuth.Setting

/-- A step on the way to a place. -/
inductive Step where
  /-- An entry of a table. -/
  | entry (key : String)
  /-- An item of a list. -/
  | item (index : Nat)
  deriving DecidableEq, Repr

def isNameChar (c : Char) : Bool :=
  ('a' ≤ c && c ≤ 'z') || ('A' ≤ c && c ≤ 'Z') || ('0' ≤ c && c ≤ '9') || c = '_' || c = '-'

/-- Reads the steps after a name; `fuel` bounds their number. -/
def laterSteps? : Nat → List Char → Option (List Step)
  | _, [] => some []
  | 0, _ => none
  | fuel + 1, '.' :: cs =>
    let name := cs.takeWhile isNameChar
    if name.isEmpty then none
    else (laterSteps? fuel (cs.dropWhile isNameChar)).map (.entry (String.ofList name) :: ·)
  | fuel + 1, '[' :: cs =>
    match cs.dropWhile Text.isDigit with
    | ']' :: rest => do
      let index ← Number.digitsValue? (cs.takeWhile Text.isDigit)
      let steps ← laterSteps? fuel rest
      return .item index :: steps
    | _ => none
  | _, _ => none

def place (key : String) : List Step :=
  let cs := key.toList
  let name := cs.takeWhile isNameChar
  if name.isEmpty then [.entry key]
  else
    match laterSteps? cs.length (cs.dropWhile isNameChar) with
    | some steps => .entry (String.ofList name) :: steps
    | none => [.entry key]

/-- The entries of a value, where it is a table. -/
def entries : Setting → Entries
  | table es => es
  | _ => []

def items : Setting → List Setting
  | list vs => vs
  | _ => []

def put (value : Setting) : List Step → Setting → Setting
  | [], _ => value
  | .entry key :: steps, v =>
    let old := (Entries.get? v.entries key).getD .nil
    .table (Entries.set v.entries key (put value steps old))
  | .item index :: steps, v =>
    let padded := v.items ++ List.replicate (index + 1 - v.items.length) .nil
    let old := padded[index]?.getD .nil
    .list (padded.set index (put value steps old))

/-- Puts the entries of a source over settings, each in the place that its key names. -/
def overlay (settings : Setting) (source : Entries) : Setting :=
  source.foldl (fun acc e => put e.2 (place e.1) acc) settings

end BearerAuth.Setting
