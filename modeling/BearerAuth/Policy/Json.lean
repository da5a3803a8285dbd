import BearerAuth.Json.Parser
import BearerAuth.Policy.Basic

/-!
# Policies in JSON

A draft is an object with declared fields, each at most once and no other, or an array with the
values of the fields in their order, of which the last ones may be left out. `null` counts as
absent.

A text is judged in reading order. A field that is refused counts before anything after it, so a
text can be refused although it also stops being JSON further on. Texts and numbers are refused as
soon as an array or object starts in their place; a list is judged when it is complete; the policy
itself is checked before what follows the value.
-/

namespace BearerAuth

/-- A field of the JSON form of a draft. -/
inductive DraftField where
  | audience
  | algorithms
  | audiences
  | issuers
  | leeway
  deriving DecidableEq, Repr

namespace DraftField

/-- Every field, in the order of the array form. -/
def all : List DraftField :=
  [audience, algorithms, audiences, issuers, leeway]

def key : DraftField → String
  | audience => "audience"
  | algorithms => "authorized_algorithms"
  | audiences => RestrictedList.audiences.field
  | issuers => RestrictedList.issuers.field
  | leeway => "leeway_seconds"

def ofKey? (s : String) : Option DraftField :=
  all.find? fun f => f.key = s

/-- Whether the value of a field is a single text or number. -/
def isScalar : DraftField → Bool
  | audience | leeway => true
  | algorithms | audiences | issuers => false

end DraftField

def ListInput.ofJson? : Json → Option ListInput
  | .str s => some (.text s)
  | .arr items => (items.mapM Json.string?).map .list
  | _ => none

/-- A list in the form in which it was given. -/
def ListInput.toJson : ListInput → Json
  | text s => .str s
  | list items => Json.ofStrings items

def leeway? : Json → Option UInt64
  | .num (.int n) =>
    if 0 ≤ n ∧ n ≤ Number.maxUInt64 then some (UInt64.ofNat n.toNat) else none
  | _ => none

/-- Reads a value that may be `null`. -/
def nullable? {α : Type} (read : Json → Option α) : Json → Option (Option α)
  | .null => some none
  | v => (read v).map some

namespace PolicyDraft

/-- Gives a field the value that it has in JSON, unless the value is refused. -/
def put? (d : PolicyDraft) (v : Json) : DraftField → Option PolicyDraft
  | .audience => (nullable? Json.string? v).map fun a => { d with audience := a }
  | .algorithms => (nullable? ListInput.ofJson? v).map fun a => { d with algorithms := a }
  | .audiences => (nullable? ListInput.ofJson? v).map fun a => { d with audiences := a }
  | .issuers => (nullable? ListInput.ofJson? v).map fun a => { d with issuers := a }
  | .leeway => (nullable? leeway? v).map fun a => { d with leeway := a }

/-- Fills a draft from members; fields in `seen` must not come again. -/
def fill? (seen : List DraftField) (d : PolicyDraft) : Json.Members → Option PolicyDraft
  | [] => some d
  | (key, v) :: rest =>
    match DraftField.ofKey? key with
    | none => none
    | some f =>
      if seen.contains f then none
      else
        match d.put? v f with
        | none => none
        | some d => fill? (f :: seen) d rest

/-- Fills a draft from values in the order of the fields; values beyond the fields do not count. -/
def fillInOrder? (d : PolicyDraft) : List DraftField → List Json → Option PolicyDraft
  | f :: fields, v :: rest =>
    match d.put? v f with
    | none => none
    | some d => fillInOrder? d fields rest
  | _, _ => some d

def ofJson? : Json → Option PolicyDraft
  | .obj members => fill? [] empty members
  | .arr items =>
    if items.length ≤ DraftField.all.length then fillInOrder? empty DraftField.all items else none
  | _ => none

/-- A draft as a JSON object. The audience is always written. -/
def toJson (d : PolicyDraft) : Json :=
  let list := fun (f : DraftField) (input : Option ListInput) =>
    input.toList.map fun i => (f.key, i.toJson)
  .obj ((DraftField.audience.key, (d.audience.map Json.str).getD .null) ::
    (list .algorithms d.algorithms ++ list .audiences d.audiences ++ list .issuers d.issuers ++
      d.leeway.toList.map fun n => (DraftField.leeway.key, Json.ofInt n.toNat)))

end PolicyDraft

/-- How a JSON text fails to be a policy. -/
inductive PolicyTextError where
  | notJson
  /-- The text has the wrong form, or it is a draft that is no policy. -/
  | refused (cause : Option PolicyError)
  deriving DecidableEq, Repr

namespace PolicyText

def isTooLong : Json → Bool
  | .arr items => DraftField.all.length < items.length
  | _ => false

/-- Whether a value in the place of a field is refused when an array or object starts there. -/
def startRefused (field : Option DraftField) (nested : Bool) : Bool :=
  nested && field.any DraftField.isScalar

/-- Whether a text that goes wrong inside a draft had been refused before that. -/
def refusedInside (stack : List Json.Frame) : Bool :=
  let nested := 1 < stack.length
  match stack.getLast? with
  | some (.object members key) =>
    let unusable := key.any fun k =>
      (DraftField.ofKey? k).isNone || members.any fun m => m.1 = k
    (PolicyDraft.fill? [] .empty members.reverse).isNone || unusable ||
      startRefused (key.bind DraftField.ofKey?) nested
  | some (.array items) =>
    (PolicyDraft.fillInOrder? .empty DraftField.all items.reverse).isNone ||
      startRefused DraftField.all[items.length]? nested
  | none => false

/-- Judges a complete value: a draft that passes the check, or the reason against it. -/
def judge {α : Type} (check : PolicyDraft → Except PolicyError α) (v : Json) :
    Except PolicyTextError α :=
  let draft :=
    match v with
    | .arr items => PolicyDraft.fillInOrder? .empty DraftField.all items
    | v => PolicyDraft.ofJson? v
  match draft with
  | none => .error (.refused none)
  | some d =>
    -- Items beyond the fields come to light only after the draft.
    if isTooLong v then .error .notJson
    else
      match check d with
      | .ok a => .ok a
      | .error e => .error (.refused (some e))

def read {α : Type} (check : PolicyDraft → Except PolicyError α) (cs : List Char) :
    Except PolicyTextError α :=
  match Json.parse cs with
  | .ok v => judge check v
  -- The value counts before what follows it.
  | .error (.trailing v) => judge check v >>= fun _ => .error .notJson
  | .error (.inside stack) => .error (if refusedInside stack then .refused none else .notJson)

end PolicyText

/-- Reads a JSON text as a draft, without checking it. -/
def PolicyDraft.ofText (s : String) : Except PolicyTextError PolicyDraft :=
  PolicyText.read .ok s.toList

namespace Policy

def ofText (s : String) : Except PolicyTextError Policy :=
  PolicyText.read PolicyDraft.validate s.toList

/-- Reads a JSON value as a policy; the error is the reason against the draft, if it is one. -/
def ofJson (v : Json) : Except (Option PolicyError) Policy :=
  match PolicyDraft.ofJson? v with
  | none => .error none
  | some d => d.validate.mapError some

def toJson (p : Policy) : Json :=
  p.toDraft.toJson

end Policy

end BearerAuth
