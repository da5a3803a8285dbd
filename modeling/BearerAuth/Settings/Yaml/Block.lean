import BearerAuth.Settings.Yaml.Flow

/-!
# YAML block style

Tables and lists by indentation. A value stands on the line of its key or, further in, on the lines
below.

Anchors, aliases, tags and complex keys are not supported, in flow style as little as here. A file
that uses one of them is refused, though it is valid YAML and a full reader loads it.
-/

namespace BearerAuth.Yaml

abbrev Line := List Char

/-! ## Lines -/

def indentOf (line : Line) : Nat :=
  (line.takeWhile (· == ' ')).length

def content (line : Line) : List Char :=
  line.dropWhile (· == ' ')

/-- Whether a line is blank or a comment. -/
def isIdle (line : Line) : Bool :=
  match line.dropWhile isSpace with
  | [] => true
  | c :: _ => c = '#'

def isBlankLine (line : Line) : Bool :=
  line.all isSpace

def skipIdle (lines : List Line) : List Line :=
  lines.dropWhile isIdle

def indented (n : Nat) (cs : List Char) : Line :=
  List.replicate n ' ' ++ cs

def trimmedLine (cs : List Char) : List Char :=
  (((cs.dropWhile isSpace).reverse).dropWhile isSpace).reverse

/-- The text before a comment; `afterBlank` tells whether a comment may start at once. -/
def beforeComment (afterBlank : Bool) : List Char → List Char
  | [] => []
  | c :: cs => if c = '#' && afterBlank then [] else c :: beforeComment (isSpace c) cs

def isItem (cs : List Char) : Bool :=
  match cs with
  | ['-'] => true
  | '-' :: c :: _ => isSpace c
  | _ => false

/-- Where a plain key ends: the key in reverse, and what follows its colon. -/
def splitKey (acc : List Char) : List Char → Option (List Char × List Char)
  | [] => none
  | c :: cs =>
    if c = ':' && (cs.isEmpty || cs.head?.any isSpace) then some (acc, cs)
    else if c = '#' && acc.head?.any isSpace then none
    else splitKey (c :: acc) cs

def blockKey? (cs : List Char) : Option (String × List Char) :=
  let afterQuoted := fun (quoted : Option (List Char × List Char)) =>
    match quoted with
    | some (key, rest) =>
      match rest.dropWhile isSpace with
      | ':' :: after =>
        if after.isEmpty || after.head?.any isSpace then some (String.ofList key, after) else none
      | _ => none
    | none => none
  match cs with
  | '"' :: rest => afterQuoted (doubleQuoted [] none rest)
  | '\'' :: rest => afterQuoted (singleQuoted [] none rest)
  | _ =>
    if startsPlain cs then
      (splitKey [] cs).map fun (acc, rest) =>
        (String.ofList (trimmedLine acc.reverse), rest)
    else none

/-! ## Scalars on lines -/

/-- The lines of a plain scalar below its first line: those further in, up to a comment. -/
def continuation (least : Nat) : List Line → List Line × List Line
  | [] => ([], [])
  | line :: rest =>
    -- Blank lines count only between lines of the scalar, not after the last one.
    if isBlankLine line then
      let (more, after) := continuation least rest
      if more.isEmpty then ([], line :: rest) else (line :: more, after)
    else if indentOf line < least || isIdle line then ([], line :: rest)
    else
      let (more, after) := continuation least rest
      (line :: more, after)

/-- Whether a plain text cannot be a scalar: it holds something that ends a key. -/
def holdsKey (cs : List Char) : Bool :=
  (splitKey [] cs).isSome

/-- Folds lines: a break becomes a space, and each blank line a break. -/
def foldLines (acc : List Char) (breaks : Nat) : List (List Char) → List Char
  | [] => acc
  | [] :: rest => foldLines acc (breaks + 1) rest
  | line :: rest =>
    let gap := if breaks = 0 then [' '] else List.replicate breaks '\n'
    foldLines (acc ++ gap ++ line) 0 rest

def plainOnLines? (least : Nat) (cs : List Char) (lines : List Line) :
    Option (Setting × List Line) :=
  let first := trimmedLine (beforeComment true cs)
  let commented := (beforeComment true cs).length < cs.length
  -- A comment ends the scalar, even where the next line is further in.
  let (more, rest) := if commented then ([], lines) else continuation least lines
  let texts := more.map fun line => trimmedLine (beforeComment true line)
  if holdsKey first || texts.any holdsKey then none
  else (plain? (foldLines first 0 texts)).map fun v => (v, rest)

def joined (cs : List Char) (lines : List Line) : List Char :=
  List.intercalate ['\n'] (cs :: lines)

/-- A value in flow style or in quotes that starts on a line, and the lines after it. -/
def flowOnLines? (cs : List Char) (lines : List Line) : Option (Setting × List Line) :=
  let text := joined cs lines
  match flowValue? (text.length + 1) text with
  | none => none
  | some (v, rest) =>
    match Text.pieces (· == '\n') rest with
    | [] => some (v, [])
    | tail :: lines =>
      if isIdle tail && (tail.isEmpty || tail.head?.any isSpace) then some (v, lines) else none

/-- How the line breaks at the end of a block of text are kept. -/
inductive Chomping where
  | strip
  | clip
  | keep
  deriving DecidableEq, Repr

/-- Reads the head of a block of text: chomping and the indentation that it gives. -/
def blockHead? (chomping : Chomping) (indent : Option Nat) :
    List Char → Option (Chomping × Option Nat)
  | [] => some (chomping, indent)
  | '-' :: cs => blockHead? .strip indent cs
  | '+' :: cs => blockHead? .keep indent cs
  | c :: cs =>
    if '1' ≤ c && c ≤ '9' then blockHead? chomping (some (c.toNat - 48)) cs
    else if isSpace c then if isIdle cs then some (chomping, indent) else none
    else none

def blockLines (least : Nat) : List Line → List Line × List Line
  | [] => ([], [])
  | line :: rest =>
    if isBlankLine line || least ≤ indentOf line then
      let (more, after) := blockLines least rest
      (line.drop least :: more, after)
    else ([], line :: rest)

/-- Whether a line of a folded block keeps its breaks. -/
def keepsBreaks (line : List Char) : Bool :=
  line.head?.any isSpace

def foldBlock (acc : List Char) (before : List Char) (breaks : Nat) : List (List Char) → List Char
  | [] => acc
  | [] :: rest => foldBlock acc before (breaks + 1) rest
  | line :: rest =>
    let gap :=
      if keepsBreaks line || keepsBreaks before then List.replicate (breaks + 1) '\n'
      else if breaks = 0 then [' ']
      else List.replicate breaks '\n'
    foldBlock (acc ++ gap ++ line) line 0 rest

/-- A block of text below its head. Its lines are indented by at least `parent`. -/
def blockText? (folded : Bool) (parent : Nat) (head : List Char) (lines : List Line) :
    Option (Setting × List Line) := do
  let (chomping, indent) ← blockHead? .clip none head
  let least := match indent, lines.find? (fun line => !isBlankLine line) with
    | some n, _ => parent - 1 + n
    | none, some line => max (indentOf line) parent
    | none, none => parent
  let (body, rest) := blockLines (max least 1) lines
  let lead := body.takeWhile List.isEmpty
  let core := ((body.drop lead.length).reverse.dropWhile List.isEmpty).reverse
  let trailing := body.length - lead.length - core.length
  let text := match folded, core with
    | true, first :: more => foldBlock first first 0 more
    | _, _ => List.intercalate ['\n'] core
  let ending := match chomping with
    | .strip => []
    | .clip => if core.isEmpty then [] else ['\n']
    | .keep => List.replicate (if core.isEmpty then trailing else trailing + 1) '\n'
  return (.text (String.ofList (List.replicate lead.length '\n' ++ text ++ ending)), rest)

/-- A value that starts on the line of its key or item. `parent` is the indentation that the lines
of the value go beyond. -/
def onLine? (parent : Nat) (cs : List Char) (lines : List Line) : Option (Setting × List Line) :=
  match cs with
  | '|' :: head => blockText? false parent head lines
  | '>' :: head => blockText? true parent head lines
  | c :: _ =>
    if ['"', '\'', '[', '\x7b'].contains c then flowOnLines? cs lines
    else if startsPlain cs then plainOnLines? parent cs lines
    else none
  | [] => none

/-! ## Blocks -/

mutual

/-- The value on lines that are indented by at least `least`; no such line means no value. -/
def block? (fuel least : Nat) (lines : List Line) : Option (Setting × List Line) :=
  match fuel with
  | 0 => none
  | fuel + 1 =>
    match skipIdle lines with
    | [] => some (.nil, [])
    | line :: rest =>
      let n := indentOf line
      if n < least then some (.nil, line :: rest)
      else if isItem (content line) then
        (blockItems? fuel n (line :: rest)).map fun (vs, rest) => (.list vs, rest)
      else if (blockKey? (content line)).isSome then
        (blockEntries? fuel n [] (line :: rest)).map fun (es, rest) => (.table es, rest)
      else onLine? least (content line) rest

def blockItems? (fuel n : Nat) (lines : List Line) : Option (List Setting × List Line) :=
  match fuel with
  | 0 => none
  | fuel + 1 =>
    match skipIdle lines with
    | [] => some ([], [])
    | line :: rest =>
      if indentOf line < n || (indentOf line = n && !isItem (content line)) then
        some ([], line :: rest)
      else if indentOf line ≠ n then none
      else
        let after := (content line).drop 1
        let below := if isIdle after then rest
          else indented (n + 1 + indentOf after) (content after) :: rest
        match block? fuel (n + 1) below with
        | none => none
        | some (v, rest) => (blockItems? fuel n rest).map fun (vs, rest) => (v :: vs, rest)

def blockEntries? (fuel n : Nat) (entries : Setting.Entries) (lines : List Line) :
    Option (Setting.Entries × List Line) :=
  match fuel with
  | 0 => none
  | fuel + 1 =>
    match skipIdle lines with
    | [] => some (entries, [])
    | line :: rest =>
      if indentOf line < n then some (entries, line :: rest)
      else if indentOf line ≠ n then none
      else
        match blockKey? (content line) with
        | none => none
        | some (key, after) =>
          let text := after.dropWhile isSpace
          let value :=
            if isIdle text then
              match skipIdle rest with
              | next :: _ =>
                -- Items may stand as far out as their key.
                if indentOf next = n && isItem (content next) then
                  (blockItems? fuel n rest).map fun (vs, rest) => (Setting.list vs, rest)
                else block? fuel (n + 1) rest
              | [] => some (.nil, [])
            else onLine? (n + 1) text rest
          match value with
          | none => none
          | some (v, rest) =>
            (appended? entries key v).bind fun es => blockEntries? fuel n es rest

end

/-! ## Documents -/

def linesOf (cs : List Char) : List Line :=
  (Text.pieces (· == '\n') cs).map fun line =>
    match line.reverse with
    | '\r' :: rest => rest.reverse
    | _ => line

/-- Whether a line consists of a marker, alone or with something after a blank. -/
def isMarker (marker line : List Char) : Bool :=
  line.take 3 = marker && (line.length = 3 || (line.drop 3).head?.any isSpace)

def isStart (line : Line) : Bool :=
  isMarker ['-', '-', '-'] line

def isEnd (line : Line) : Bool :=
  isMarker ['.', '.', '.'] line

/-- The documents of lines, each with its lines in reverse; `current` is the open document. -/
def documents (current : Option (List Line)) : List Line → List (List Line)
  | [] => current.toList
  | line :: rest =>
    if isStart line then
      current.toList ++ documents (some [line.drop 3]) rest
    else if isEnd line then current.toList ++ documents none rest
    else
      match current with
      | some lines => documents (some (line :: lines)) rest
      | none =>
        if isIdle line || line.head? = some '%' then documents none rest
        else documents (some [line]) rest

def document? (lines : List Line) : Option Setting :=
  match block? (2 * lines.flatten.length + lines.length + 2) 0 lines with
  | some (v, rest) => if rest.all isIdle then some v else none
  | none => none

/-- The entries of a YAML text: at most one document, which is a table. -/
def entries? (cs : List Char) : Option Setting.Entries :=
  match documents none (linesOf cs) with
  | [] => some []
  | [lines] =>
    match document? lines.reverse with
    | some (.table entries) => some entries
    | _ => none
  | _ => none

end BearerAuth.Yaml
