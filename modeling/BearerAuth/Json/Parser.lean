import BearerAuth.Json.Token

/-!
# Reading JSON

Tokens are put together by a machine that keeps a stack of open containers. When a text is not one
JSON value, the machine tells how far it came: the containers that were open, with what they already
held, or a complete value with more text after it. Readers that judge a text in reading order need
that; the others use `parse?`.

Containers nest at most 127 levels deep.
-/

namespace BearerAuth.Json

/-- An open container; items and members are in reverse. -/
inductive Frame where
  | array (items : List Json)
  /-- An object with the members read so far, and the key whose value comes next. -/
  | object (members : List (String × Json)) (key : Option String)
  deriving Repr

/-- What may come next. -/
inductive Place where
  | value
  /-- The first item of an array, or its end. -/
  | firstItem
  /-- The first key of an object, or its end. -/
  | firstKey
  | key
  /-- The colon after a key. -/
  | colon
  /-- What follows a complete value. -/
  | after (v : Json)
  deriving Repr

/-- How a text fails to be one JSON value. -/
inductive Broken where
  /-- It goes wrong or ends before a value is complete; the innermost open container comes first. -/
  | inside (stack : List Frame)
  /-- A complete value is followed by something else. -/
  | trailing (v : Json)
  deriving Repr

/-- The greatest number of open containers. -/
def maxDepth : Nat := 127

def Token.scalar? : Token → Option Json
  | .null => some .null
  | .bool b => some (.bool b)
  | .num n => some (.num n)
  | .str s => some (.str s)
  | _ => none

/-- One step of the machine where a value must come. -/
def startValue (stack : List Frame) (t : Token) : Option (Place × List Frame) :=
  match t.scalar? with
  | some v => some (.after v, stack)
  | none =>
    match t with
    | .openArray =>
      if stack.length < maxDepth then some (.firstItem, .array [] :: stack) else none
    | .openObject =>
      if stack.length < maxDepth then some (.firstKey, .object [] none :: stack) else none
    | _ => none

/-- One step of the machine after a complete value inside the innermost container. -/
def closeOrContinue (v : Json) (frame : Frame) (stack : List Frame) (t : Token) :
    Option (Place × List Frame) :=
  match frame, t with
  | .array items, .comma => some (.value, .array (v :: items) :: stack)
  | .array items, .closeArray => some (.after (.arr (v :: items).reverse), stack)
  | .object members (some key), .comma =>
    some (.key, .object ((key, v) :: members) none :: stack)
  | .object members (some key), .closeObject =>
    some (.after (.obj ((key, v) :: members).reverse), stack)
  | _, _ => none

/-- One step of the machine: the place and the stack after a token, unless the text goes wrong. -/
def advance : Place → List Frame → Token → Option (Place × List Frame)
  | .value, stack, t => startValue stack t
  | .firstItem, .array [] :: stack, .closeArray => some (.after (.arr []), stack)
  | .firstItem, stack, t => startValue stack t
  | .firstKey, .object _ _ :: stack, .closeObject => some (.after (.obj []), stack)
  | .firstKey, .object members _ :: stack, .str key =>
    some (.colon, .object members (some key) :: stack)
  | .key, .object members _ :: stack, .str key =>
    some (.colon, .object members (some key) :: stack)
  | .colon, stack, .colon => some (.value, stack)
  | .after v, frame :: stack, t => closeOrContinue v frame stack t
  | _, _, _ => none

/-- The stack as a reader sees it at the end: a value that is complete counts as read. -/
def settled : Place → List Frame → List Frame
  | .after v, .array items :: stack => .array (v :: items) :: stack
  | .after v, .object members (some key) :: stack => .object ((key, v) :: members) none :: stack
  | _, stack => stack

def parseFrom : Place → List Frame → List Token → Except Broken Json
  | .after v, [], [] => .ok v
  | .after v, [], _ :: _ => .error (.trailing v)
  | place, stack, [] => .error (.inside (settled place stack))
  | place, stack, t :: ts =>
    match advance place stack t with
    | some (place, stack) => parseFrom place stack ts
    | none => .error (.inside (settled place stack))

def parse (cs : List Char) : Except Broken Json :=
  parseFrom .value [] (tokens cs)

/-- The JSON value of a text, if it is one. Repeated keys are kept. -/
def parse? (cs : List Char) : Option Json :=
  (parse cs).toOption

end BearerAuth.Json
