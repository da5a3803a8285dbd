import BearerAuth.Settings.Value
import BearerAuth.Text.Digit

/-!
# YAML scalars

A scalar without quotes stands for nothing, a truth value, an integer, a number or a text. A quoted
scalar is always a text; its line breaks are folded, one break into a space and each further one
into a break.
-/

namespace BearerAuth.Yaml

/-! ## Plain scalars -/

/-- The value of digits in a base, after an optional minus sign. -/
def basedInteger? (base : Nat) (cs : List Char) : Option Int :=
  let value? := fun (ds : List Char) =>
    if ds.isEmpty then none else Text.valueIn? base ds
  let number? : Option Int := match cs with
    | '-' :: ds => (value? ds).map fun n : Nat => -(n : Int)
    | '+' :: ds => (value? ds).map Int.ofNat
    | ds => (value? ds).map Int.ofNat
  number?.filter fun n => Number.minInt64 ≤ n && n ≤ Number.maxInt64

def integer? (cs : List Char) : Option Int :=
  match cs with
  | '0' :: 'x' :: ds => basedInteger? 16 ds
  | '0' :: 'o' :: ds => basedInteger? 8 ds
  | '+' :: ds => Number.int64? ds
  | ds => Number.int64? ds

/-- Words for numbers that cannot be used as settings. -/
def unusableNumbers : List String :=
  [".inf", ".Inf", ".INF", "+.inf", "+.Inf", "+.INF", "-.inf", "-.Inf", "-.INF", ".nan", ".NaN",
    ".NAN"]

/-- The value of a plain scalar, unless it cannot be used. -/
def plain? (cs : List Char) : Option Setting :=
  let s := String.ofList cs
  if ["", "~", "null"].contains s then some .nil
  else if s = "true" then some (.bool true)
  else if s = "false" then some (.bool false)
  else if unusableNumbers.contains s then none
  else
    match integer? cs with
    | some n => some (.int n)
    | none =>
      if cs.any Text.isDigit then
        match SettingNumber.ofChars? cs with
        | some x => some (.number x)
        | none => some (.text s)
      else some (.text s)

/-! ## Quoted scalars -/

/-- Drops blanks at the end of a text in reverse. -/
def dropBlanks (acc : List Char) : List Char :=
  acc.dropWhile fun c => c = ' ' || c = '\t'

/-- What line breaks between two lines become; the text is in reverse. -/
def fold (breaks : Nat) (acc : List Char) : List Char :=
  match breaks with
  | 0 => acc
  | 1 => ' ' :: acc
  | n + 1 => List.replicate n '\n' ++ acc

/-- Ends the blanks between two lines, when the reader is there. -/
def settle (breaks : Option Nat) (acc : List Char) : List Char :=
  match breaks with
  | some n => fold n acc
  | none => acc

/-- The rest of a scalar in single quotes and what follows it. The text is kept in reverse; after a
line break, `breaks` counts the breaks. -/
def singleQuoted (acc : List Char) (breaks : Option Nat) :
    List Char → Option (List Char × List Char)
  | [] => none
  | '\'' :: '\'' :: cs => singleQuoted ('\'' :: settle breaks acc) none cs
  | '\'' :: cs => some ((settle breaks acc).reverse, cs)
  | '\n' :: cs =>
    match breaks with
    | some n => singleQuoted acc (some (n + 1)) cs
    | none => singleQuoted (dropBlanks acc) (some 1) cs
  | c :: cs =>
    if breaks.isSome && (c = ' ' || c = '\t') then singleQuoted acc breaks cs
    else singleQuoted (c :: settle breaks acc) none cs

def shortEscape? (c : Char) : Option Char :=
  List.lookup c [('0', Char.ofNat 0), ('a', Char.ofNat 7), ('b', Char.ofNat 8), ('t', '\t'),
    ('\t', '\t'), ('n', '\n'), ('v', Char.ofNat 11), ('f', Char.ofNat 12), ('r', '\r'),
    ('e', Char.ofNat 27), (' ', ' '), ('"', '"'), ('/', '/'), ('\\', '\\'),
    ('N', Char.ofNat 0x85), ('_', Char.ofNat 0xA0), ('L', Char.ofNat 0x2028),
    ('P', Char.ofNat 0x2029)]

/-- The rest of a scalar in double quotes and what follows it, in the manner of `singleQuoted`. -/
def doubleQuoted (acc : List Char) (breaks : Option Nat) :
    List Char → Option (List Char × List Char)
  | [] => none
  -- A backslash at the end of a line takes the break away.
  | '\\' :: '\n' :: cs => doubleQuoted (settle breaks acc) (some 0) cs
  | '\\' :: 'x' :: a :: b :: cs =>
    match Text.coded? [a, b] with
    | some x => doubleQuoted (x :: settle breaks acc) none cs
    | none => none
  | '\\' :: 'u' :: a :: b :: c :: d :: cs =>
    match Text.coded? [a, b, c, d] with
    | some x => doubleQuoted (x :: settle breaks acc) none cs
    | none => none
  | '\\' :: 'U' :: a :: b :: c :: d :: e :: f :: g :: h :: cs =>
    match Text.coded? [a, b, c, d, e, f, g, h] with
    | some x => doubleQuoted (x :: settle breaks acc) none cs
    | none => none
  | '\\' :: c :: cs =>
    match shortEscape? c with
    | some x => doubleQuoted (x :: settle breaks acc) none cs
    | none => none
  | '\n' :: cs =>
    match breaks with
    | some n => doubleQuoted acc (some (n + 1)) cs
    | none => doubleQuoted (dropBlanks acc) (some 1) cs
  | c :: cs =>
    if c = '"' then some ((settle breaks acc).reverse, cs)
    else if c = '\\' then none
    else if breaks.isSome && (c = ' ' || c = '\t') then doubleQuoted acc breaks cs
    else doubleQuoted (c :: settle breaks acc) none cs

end BearerAuth.Yaml
