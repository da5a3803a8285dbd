import BearerAuth.Settings.Place
import BearerAuth.Settings.Toml.Scalar

/-!
# TOML documents

A document is a sequence of lines that set keys to values or open tables. A key may be set only
once, and a table that a header or a value has made complete is not opened again by dotted keys.
-/

namespace BearerAuth.Toml

/-! ## Keys and values -/

def skipBlanks : List Token → List Token
  | .blank :: ts => skipBlanks ts
  | ts => ts

def skipSpace : List Token → List Token
  | .blank :: ts => skipSpace ts
  | .lineEnd :: ts => skipSpace ts
  | ts => ts

/-- A part of a key as it is being put together: a name, or the dot between two names. -/
inductive KeyPart where
  | name (s : String)
  | dot
  deriving DecidableEq, Repr

def wordParts (cs : List Char) : List KeyPart :=
  let parts := (Text.pieces (· == '.') cs).map fun piece =>
    if piece.isEmpty then [] else [KeyPart.name (String.ofList piece)]
  List.intercalate [.dot] parts

def isKeyWord (cs : List Char) : Bool :=
  cs.all fun c => Setting.isNameChar c || c = '.'

/-- The parts of the key that tokens start with, and what follows. -/
def keyParts : List Token → List KeyPart × List Token
  | .blank :: ts => keyParts ts
  | .word cs :: ts =>
    if isKeyWord cs then
      let (parts, rest) := keyParts ts
      (wordParts cs ++ parts, rest)
    else ([], .word cs :: ts)
  | .quoted s false :: ts =>
    let (parts, rest) := keyParts ts
    (.name s :: parts, rest)
  | ts => ([], ts)

/-- The names of a key: names and dots take turns. -/
def names? : List KeyPart → Option (List String)
  | [.name s] => some [s]
  | .name s :: .dot :: rest => (names? rest).map (s :: ·)
  | _ => none

def key? (ts : List Token) : Option (List String × List Token) :=
  let (parts, rest) := keyParts ts
  (names? parts).map fun names => (names, rest)

/-- A date and a time that stand one blank apart become one word. -/
def joinMoments : List Token → List Token
  | .word date :: .blank :: .word time :: ts =>
    if isDate date && (zonedTime? time).isSome then .word (date ++ ' ' :: time) :: joinMoments ts
    else .word date :: .blank :: joinMoments (.word time :: ts)
  | t :: ts => t :: joinMoments ts
  | [] => []

/-- How a table came to be. -/
inductive Origin where
  /-- On the way to another table. -/
  | implied
  /-- By a header. -/
  | header
  /-- By dotted keys. -/
  | dotted
  /-- As a value, complete. -/
  | value
  deriving DecidableEq, Repr

/-- A value of a document under construction. -/
inductive Node where
  | leaf (v : Setting)
  | table (origin : Origin) (entries : List (String × Node))
  /-- Tables that headers with double brackets have made, the last one first. -/
  | tables (items : List (List (String × Node)))
  deriving Repr, Inhabited

def lookup? (entries : List (String × Node)) (key : String) : Option Node :=
  List.lookup key entries

/-- Sets a key: one that is present keeps its place. -/
def assign : List (String × Node) → String → Node → List (String × Node)
  | [], key, v => [(key, v)]
  | (k, old) :: rest, key, v =>
    if k = key then (k, v) :: rest else (k, old) :: assign rest key v

def setKey? (v : Node) : List String → List (String × Node) → Option (List (String × Node))
  | [], _ => none
  | [key], entries =>
    match lookup? entries key with
    | none => some (assign entries key v)
    | some _ => none
  | key :: keys, entries =>
    match lookup? entries key with
    | none => (setKey? v keys []).map fun inner => assign entries key (.table .dotted inner)
    | some (.table .dotted old) =>
      (setKey? v keys old).map fun inner => assign entries key (.table .dotted inner)
    | some (.table .implied old) =>
      (setKey? v keys old).map fun inner => assign entries key (.table .implied inner)
    | some _ => none

mutual

def Node.setting : Node → Setting
  | .leaf v => v
  | .table _ entries => .table (entrySettings entries)
  | .tables items => .list (tableSettings items).reverse

def entrySettings : List (String × Node) → Setting.Entries
  | [] => []
  | (key, v) :: rest => (key, v.setting) :: entrySettings rest

def tableSettings : List (List (String × Node)) → List Setting
  | [] => []
  | entries :: rest => .table (entrySettings entries) :: tableSettings rest

end

mutual

/-- The value that tokens start with, and what follows; `fuel` bounds the steps. -/
def value? (fuel : Nat) (ts : List Token) : Option (Setting × List Token) :=
  match fuel, ts with
  | 0, _ => none
  | _ + 1, .word cs :: rest => (scalar? cs).map fun v => (v, rest)
  | _ + 1, .quoted s _ :: rest => some (.text s, rest)
  | fuel + 1, .mark '[' :: rest =>
    (items? fuel (skipSpace rest)).map fun (vs, rest) => (.list vs, rest)
  | fuel + 1, .mark '\x7b' :: rest =>
    match skipBlanks rest with
    | .mark '\x7d' :: rest => some (.table [], rest)
    | rest => (members? fuel [] rest).map fun (es, rest) => (.table (entrySettings es), rest)
  | _ + 1, _ => none

def items? (fuel : Nat) (ts : List Token) : Option (List Setting × List Token) :=
  match fuel with
  | 0 => none
  | fuel + 1 =>
    match ts with
    | .mark ']' :: rest => some ([], rest)
    | ts =>
      match value? fuel ts with
      | none => none
      | some (v, rest) =>
        match skipSpace rest with
        | .mark ',' :: rest => (items? fuel (skipSpace rest)).map fun (vs, rest) => (v :: vs, rest)
        | .mark ']' :: rest => some ([v], rest)
        | _ => none

/-- The remaining members of a table in one line. -/
def members? (fuel : Nat) (entries : List (String × Node)) (ts : List Token) :
    Option (List (String × Node) × List Token) :=
  match fuel with
  | 0 => none
  | fuel + 1 =>
    match key? ts with
    | some (keys, .mark '=' :: rest) =>
      match value? fuel (skipBlanks rest) with
      | none => none
      | some (v, rest) =>
        match setKey? (.leaf v) keys entries with
        | none => none
        | some entries =>
          match skipBlanks rest with
          | .mark ',' :: rest => members? fuel entries (skipBlanks rest)
          | .mark '\x7d' :: rest => some (entries, rest)
          | _ => none
    | _ => none

end

/-! ## Documents -/

/-- Applies a change to the table at a path of headers. Tables on the way are made. -/
def atHeader? (change : List (String × Node) → Option (List (String × Node))) :
    List String → List (String × Node) → Option (List (String × Node))
  | [], entries => change entries
  | key :: keys, entries =>
    match lookup? entries key with
    | none => (atHeader? change keys []).map fun inner => assign entries key (.table .implied inner)
    | some (.table .value _) => none
    | some (.table origin old) =>
      (atHeader? change keys old).map fun inner => assign entries key (.table origin inner)
    | some (.tables (last :: others)) =>
      (atHeader? change keys last).map fun inner => assign entries key (.tables (inner :: others))
    | some _ => none

def openTable? (key : String) (entries : List (String × Node)) : Option (List (String × Node)) :=
  match lookup? entries key with
  | none => some (assign entries key (.table .header []))
  -- So far the table was only on the way to another one.
  | some (.table .implied old) => some (assign entries key (.table .header old))
  | some _ => none

/-- Opens one more table of a header with double brackets. -/
def openItem? (key : String) (entries : List (String × Node)) : Option (List (String × Node)) :=
  match lookup? entries key with
  | none => some (assign entries key (.tables [[]]))
  | some (.tables items) => some (assign entries key (.tables ([] :: items)))
  | some _ => none

structure Progress where
  /-- The entries of the document. -/
  root : List (String × Node)
  /-- The table that keys belong to. -/
  current : List String

def applyHeader? (openAt : String → List (String × Node) → Option (List (String × Node)))
    (keys : List String) (p : Progress) : Option Progress :=
  match keys.getLast? with
  | none => none
  | some key => (atHeader? (openAt key) keys.dropLast p.root).map fun root => ⟨root, keys⟩

/-- Whether tokens are at the end of a line; what follows it. -/
def lineRest? (ts : List Token) : Option (List Token) :=
  match skipBlanks ts with
  | [] => some []
  | .lineEnd :: rest => some rest
  | _ => none

def line? (p : Progress) (ts : List Token) : Option (Progress × List Token) :=
  match ts with
  | .mark '[' :: .mark '[' :: rest =>
    match key? rest with
    | some (keys, .mark ']' :: .mark ']' :: rest) =>
      (applyHeader? openItem? keys p).map fun p => (p, rest)
    | _ => none
  | .mark '[' :: rest =>
    match key? rest with
    | some (keys, .mark ']' :: rest) => (applyHeader? openTable? keys p).map fun p => (p, rest)
    | _ => none
  | ts =>
    match key? ts with
    | some (keys, .mark '=' :: rest) => do
      let (v, rest) ← value? (rest.length + 1) (skipBlanks rest)
      -- A table in one line is complete; no later line adds to it.
      let node := match v with
        | .table es => Node.table .value (es.map fun e => (e.1, .leaf e.2))
        | v => .leaf v
      let root ← atHeader? (setKey? node keys) p.current p.root
      return (⟨root, p.current⟩, rest)
    | _ => none

/-- Reads the remaining lines; `fuel` bounds their number. -/
def lines? : Nat → Progress → List Token → Option Progress
  | 0, _, _ => none
  | fuel + 1, p, ts =>
    match skipSpace ts with
    | [] => some p
    | ts =>
      match line? p ts with
      | none => none
      | some (p, rest) =>
        match lineRest? rest with
        | none => none
        | some rest => lines? fuel p rest

def entries? (cs : List Char) : Option Setting.Entries :=
  let ts := joinMoments (tokens cs)
  (lines? (ts.length + 1) ⟨[], []⟩ ts).map fun p => entrySettings p.root

end BearerAuth.Toml
