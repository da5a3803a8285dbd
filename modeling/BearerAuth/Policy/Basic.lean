import BearerAuth.Algorithm
import BearerAuth.Text.Blank

/-!
# Policies

A policy says which tokens a service trusts: the signature algorithms, the audiences and issuers
when they are restricted, and the leeway for clocks that differ. A draft is a policy before it is
checked. Every policy comes out of `PolicyDraft.validate`, so its lists are in normal form and its
algorithms are asymmetric.
-/

namespace BearerAuth

/-- A list given as one text with commas or as a list. -/
inductive ListInput where
  | text (s : String)
  | list (items : List String)
  deriving DecidableEq, Repr

/-- A policy that has not been checked. -/
structure PolicyDraft where
  /-- The audience that the service itself stands for. -/
  audience : Option String
  algorithms : Option ListInput
  /-- The allowed audiences of tokens. -/
  audiences : Option ListInput
  /-- The allowed issuers of tokens. -/
  issuers : Option ListInput
  /-- Seconds by which clocks may differ. -/
  leeway : Option UInt64
  deriving DecidableEq, Repr

/-- A checked policy. -/
structure Policy where
  /-- The audience that the service itself stands for. -/
  audience : String
  /-- The allowed algorithms. -/
  algorithms : List Algorithm
  /-- The allowed audiences of tokens, when they are restricted. -/
  audiences : Option (List String)
  /-- The allowed issuers of tokens, when they are restricted. -/
  issuers : Option (List String)
  /-- Seconds by which clocks may differ. -/
  leeway : UInt64
  deriving DecidableEq, Repr

/-- A list of a policy that must not be empty. -/
inductive RestrictedList where
  | audiences
  | issuers
  deriving DecidableEq, Repr

def RestrictedList.field : RestrictedList → String
  | audiences => "authorized_audiences"
  | issuers => "authorized_issuers"

inductive PolicyError where
  /-- Names that stand for no asymmetric algorithm. -/
  | invalidAlgorithms (names : List String)
  /-- A restricted list has no entry left. -/
  | emptyList (field : RestrictedList)
  | missingAudience
  deriving DecidableEq, Repr

def PolicyError.message : PolicyError → String
  | invalidAlgorithms names => "Invalid algorithms: " ++ String.intercalate ", " names
  | emptyList field =>
    "Invalid value for '" ++ field.field ++ "': empty list after processing"
  | missingAudience => "Missing required field 'audience'"

namespace ListInput

def entries : ListInput → List String
  | text s => Text.commaParts s
  | list items => items

/-- The entries without the blanks around them; blank entries are dropped. -/
def trimmedEntries (input : ListInput) : List String :=
  (input.entries.map Text.trim).filter (· ≠ "")

/-- The first occurrences in a list, after the entries of `seen`, which is in reverse. -/
def firstOccurrences (seen : List String) : List String → List String
  | [] => seen.reverse
  | s :: rest =>
    if seen.contains s then firstOccurrences seen rest else firstOccurrences (s :: seen) rest

/-- The normal form of a list: no blanks around entries, no blank entry, no entry twice. -/
def normalized (input : ListInput) : List String :=
  firstOccurrences [] input.trimmedEntries

def restricted (field : RestrictedList) (input : ListInput) : Except PolicyError (List String) :=
  if input.normalized.isEmpty then .error (.emptyList field) else .ok input.normalized

end ListInput

/-- The algorithms that names stand for. Either every name stands for one, or the error lists all
names that do not. -/
def parseAlgorithms (names : List String) : Except PolicyError (List Algorithm) :=
  let invalid := names.filter fun name => (Algorithm.asymmetricOfName? name).isNone
  if invalid.isEmpty then .ok (names.filterMap Algorithm.asymmetricOfName?)
  else .error (.invalidAlgorithms invalid)

def checkOptional {α β : Type} (check : α → Except PolicyError β) :
    Option α → Except PolicyError (Option β)
  | none => .ok none
  | some a => (check a).map some

/-- The algorithms of a draft; a draft that names none allows every asymmetric one. -/
def PolicyDraft.checkedAlgorithms (d : PolicyDraft) : Except PolicyError (List Algorithm) :=
  match d.algorithms with
  | none => .ok Algorithm.defaults
  | some input => parseAlgorithms input.trimmedEntries

/-- Checks a draft: the audience first, then the algorithms, the audiences and the issuers. -/
def PolicyDraft.validate (d : PolicyDraft) : Except PolicyError Policy := do
  let audience ← match d.audience with
    | some s => .ok s
    | none => .error .missingAudience
  let algorithms ← d.checkedAlgorithms
  let audiences ← checkOptional (ListInput.restricted .audiences) d.audiences
  let issuers ← checkOptional (ListInput.restricted .issuers) d.issuers
  return ⟨audience, algorithms, audiences, issuers, d.leeway.getD 0⟩

namespace Policy

def allows (p : Policy) (a : Algorithm) : Bool :=
  p.algorithms.contains a

/-- The draft that a policy comes from, with every list as a list. -/
def toDraft (p : Policy) : PolicyDraft where
  audience := some p.audience
  algorithms := some (.list (p.algorithms.map Algorithm.name))
  audiences := p.audiences.map .list
  issuers := p.issuers.map .list
  leeway := some p.leeway

end Policy

/-! ## Building a draft step by step -/

/-- A field of a draft with the value given for it. -/
inductive PolicyField where
  | algorithms (input : ListInput)
  | audiences (input : ListInput)
  | issuers (input : ListInput)
  | leeway (seconds : UInt64)
  deriving DecidableEq, Repr

namespace PolicyDraft

def empty : PolicyDraft :=
  ⟨none, none, none, none, none⟩

/-- Gives a field its value; a later value replaces an earlier one. -/
def set (d : PolicyDraft) : PolicyField → PolicyDraft
  | .algorithms input => { d with algorithms := some input }
  | .audiences input => { d with audiences := some input }
  | .issuers input => { d with issuers := some input }
  | .leeway seconds => { d with leeway := some seconds }

def ofFields (audience : String) (fields : List PolicyField) : PolicyDraft :=
  fields.foldl set { empty with audience := some audience }

end PolicyDraft

end BearerAuth
