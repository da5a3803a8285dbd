import BearerAuth.Settings.Yaml.Scalar

/-!
# YAML flow style

Lists in brackets and tables in braces, which may go over several lines. A key may stand only once
in a table.
-/

namespace BearerAuth.Yaml

/-- Whether a character separates or encloses entries. -/
def isFlowMark (c : Char) : Bool :=
  [',', '[', ']', '\x7b', '\x7d'].contains c

def isSpace (c : Char) : Bool :=
  c = ' ' || c = '\t' || c = '\n'

/-- The text after blanks, line breaks and comments. A comment comes after a blank. -/
def skipFlow (inComment afterBlank : Bool) : List Char → List Char
  | [] => []
  | c :: cs =>
    if inComment then skipFlow (c ≠ '\n') true cs
    else if isSpace c then skipFlow false true cs
    else if c = '#' && afterBlank then skipFlow true true cs
    else c :: cs

/-- Whether a colon before `rest` ends a key. -/
def endsKey (rest : List Char) : Bool :=
  match rest with
  | [] => true
  | c :: _ => isSpace c || isFlowMark c

/-- The plain scalar that a text starts with, in reverse, and what follows. -/
def flowPlain (acc : List Char) : List Char → List Char × List Char
  | [] => (acc, [])
  | c :: cs =>
    if isFlowMark c || (c = ':' && endsKey cs) || (c = '#' && acc.head?.any isSpace) then
      (acc, c :: cs)
    else flowPlain (c :: acc) cs

/-- The words of a scalar on several lines with one space between lines. -/
def joinLines (cs : List Char) : List Char :=
  let trimmed := fun (line : List Char) =>
    (((line.dropWhile isSpace).reverse).dropWhile isSpace).reverse
  let lines := (Text.pieces (· == '\n') cs).map trimmed
  List.intercalate [' '] (lines.filter (!·.isEmpty))

/-- Whether a plain scalar may start with a character. -/
def mayStartPlain (c : Char) : Bool :=
  !(['\t', '#', '&', '*', '!', '|', '>', '\'', '"', '%', '@', '\x60'].contains c || isFlowMark c)

/-- Whether a text starts with a plain scalar. A hyphen or question mark before a blank marks an
entry or a complex key instead. -/
def startsPlain (cs : List Char) : Bool :=
  match cs with
  | [] => false
  | c :: cs => mayStartPlain c && ((c ≠ '-' && c ≠ '?') || cs.head?.any fun c => !isSpace c)

/-- A table with one more entry, unless the key is there. -/
def appended? (entries : Setting.Entries) (key : String) (v : Setting) : Option Setting.Entries :=
  if (Setting.Entries.get? entries key).isSome then none else some (entries ++ [(key, v)])

/-- A key that stands in front of a colon, and what follows the colon. -/
def flowKey? (cs : List Char) : Option (String × List Char) :=
  let quoted := match cs with
    | '"' :: rest => doubleQuoted [] none rest
    | '\'' :: rest => singleQuoted [] none rest
    | _ =>
      if startsPlain cs then
        let (acc, rest) := flowPlain [] cs
        some (joinLines acc.reverse, rest)
      else none
  quoted.map fun (key, rest) => (String.ofList key, skipFlow false true rest)

mutual

/-- The value that a text starts with, and what follows; `fuel` bounds the steps. -/
def flowValue? (fuel : Nat) (cs : List Char) : Option (Setting × List Char) :=
  match fuel, cs with
  | 0, _ => none
  | fuel + 1, '[' :: rest =>
    (flowItems? fuel (skipFlow false true rest)).map fun (vs, rest) => (.list vs, rest)
  | fuel + 1, '\x7b' :: rest =>
    (flowEntries? fuel [] (skipFlow false true rest)).map fun (es, rest) => (.table es, rest)
  | _ + 1, '"' :: rest =>
    (doubleQuoted [] none rest).map fun (s, rest) => (.text (String.ofList s), rest)
  | _ + 1, '\'' :: rest =>
    (singleQuoted [] none rest).map fun (s, rest) => (.text (String.ofList s), rest)
  | _ + 1, cs =>
    if startsPlain cs then
      let (acc, rest) := flowPlain [] cs
      (plain? (joinLines acc.reverse)).map fun v => (v, rest)
    else none

def flowItems? (fuel : Nat) (cs : List Char) : Option (List Setting × List Char) :=
  match fuel with
  | 0 => none
  | fuel + 1 =>
    match cs with
    | ']' :: rest => some ([], rest)
    | cs =>
      match flowValue? fuel cs with
      | none => none
      | some (v, rest) =>
        match skipFlow false false rest with
        | ',' :: rest =>
          (flowItems? fuel (skipFlow false true rest)).map fun (vs, rest) => (v :: vs, rest)
        | ']' :: rest => some ([v], rest)
        | _ => none

def flowEntries? (fuel : Nat) (entries : Setting.Entries) (cs : List Char) :
    Option (Setting.Entries × List Char) :=
  match fuel with
  | 0 => none
  | fuel + 1 =>
    match cs with
    | '\x7d' :: rest => some (entries, rest)
    | cs =>
      match flowKey? cs with
      | none => none
      | some (key, ':' :: rest) =>
        match skipFlow false true rest with
        -- A key without a value.
        | ',' :: rest =>
          (appended? entries key .nil).bind fun es =>
            flowEntries? fuel es (skipFlow false true rest)
        | '\x7d' :: rest => (appended? entries key .nil).map fun es => (es, rest)
        | rest =>
          match flowValue? fuel rest with
          | none => none
          | some (v, rest) =>
            match appended? entries key v, skipFlow false false rest with
            | some es, ',' :: rest => flowEntries? fuel es (skipFlow false true rest)
            | some es, '\x7d' :: rest => some (es, rest)
            | _, _ => none
      | some (key, ',' :: rest) =>
        (appended? entries key .nil).bind fun es => flowEntries? fuel es (skipFlow false true rest)
      | some (key, '\x7d' :: rest) => (appended? entries key .nil).map fun es => (es, rest)
      | some _ => none

end

end BearerAuth.Yaml
