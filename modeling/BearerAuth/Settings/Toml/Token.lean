import BearerAuth.Text.Digit

/-!
# TOML tokens

A TOML text is cut into punctuation, line ends, quoted texts and plain words. Blanks are kept as
tokens of their own, because a date and a time may stand one blank apart; comments are dropped.
-/

namespace BearerAuth.Toml

inductive Token where
  /-- One of the characters `=`, `,`, `.`, brackets and braces. -/
  | mark (c : Char)
  | lineEnd
  /-- One space or tab. -/
  | blank
  /-- A run of letters, digits and the characters `_`, `-`, `+`, `:` and `.`. -/
  | word (cs : List Char)
  /-- A quoted text; a long one is not a key. -/
  | quoted (s : String) (isLong : Bool)
  /-- The text stops being TOML here. -/
  | fault
  deriving DecidableEq, Repr

/-- What is being read; texts are in reverse. -/
inductive Mode where
  | free
  | comment
  | word (acc : List Char)
  | basic (acc : List Char)
  | literal (acc : List Char)
  /-- A long text; after a backslash at the end of a line, blanks and line ends are skipped. -/
  | longBasic (acc : List Char) (skips : Bool)
  /-- Between a backslash in a long text and the end of the line. -/
  | lineBreak (acc : List Char)
  | longLiteral (acc : List Char)
  deriving DecidableEq, Repr

/-- Whether a character may stand in a word. -/
def isWordChar (c : Char) : Bool :=
  ('a' ≤ c && c ≤ 'z') || ('A' ≤ c && c ≤ 'Z') || ('0' ≤ c && c ≤ '9') ||
    ['_', '-', '+', ':', '.'].contains c

/-- Whether a character may stand in a comment or a text of one line. -/
def isPrintable (c : Char) : Bool :=
  c = '\t' || (0x20 ≤ c.toNat && c.toNat ≠ 0x7F)

def isMark (c : Char) : Bool :=
  ['=', ',', '[', ']', '\x7b', '\x7d'].contains c

/-- The character of a short escape. -/
def shortEscape? : Char → Option Char
  | 'b' => some (Char.ofNat 8)
  | 't' => some '\t'
  | 'n' => some '\n'
  | 'f' => some (Char.ofNat 12)
  | 'r' => some '\r'
  | '"' => some '"'
  | '\\' => some '\\'
  | _ => none

/-- The tokens of the words and marks that are left when a text ends. -/
def atEnd : Mode → List Token
  | .free | .comment => []
  | .word acc => [.word acc.reverse]
  | _ => [.fault]

def textOf (acc : List Char) : String :=
  String.ofList acc.reverse

def scan : Mode → List Char → List Token
  | mode, [] => atEnd mode
  | .free, '\r' :: '\n' :: cs => .lineEnd :: scan .free cs
  -- A line end right after the opening quotes is left out.
  | .free, '"' :: '"' :: '"' :: '\r' :: '\n' :: cs => scan (.longBasic [] false) cs
  | .free, '"' :: '"' :: '"' :: '\n' :: cs => scan (.longBasic [] false) cs
  | .free, '"' :: '"' :: '"' :: cs => scan (.longBasic [] false) cs
  | .free, '\'' :: '\'' :: '\'' :: '\r' :: '\n' :: cs => scan (.longLiteral []) cs
  | .free, '\'' :: '\'' :: '\'' :: '\n' :: cs => scan (.longLiteral []) cs
  | .free, '\'' :: '\'' :: '\'' :: cs => scan (.longLiteral []) cs
  | .free, c :: cs =>
    if c = '\n' then .lineEnd :: scan .free cs
    else if c = ' ' || c = '\t' then .blank :: scan .free cs
    else if c = '#' then scan .comment cs
    else if c = '"' then scan (.basic []) cs
    else if c = '\'' then scan (.literal []) cs
    else if isMark c then .mark c :: scan .free cs
    else if isWordChar c then scan (.word [c]) cs
    else [.fault]
  | .comment, '\r' :: '\n' :: cs => .lineEnd :: scan .free cs
  | .comment, c :: cs =>
    if c = '\n' then .lineEnd :: scan .free cs
    else if isPrintable c then scan .comment cs
    else [.fault]
  | .word acc, '\r' :: '\n' :: cs => .word acc.reverse :: .lineEnd :: scan .free cs
  | .word acc, c :: cs =>
    if isWordChar c then scan (.word (c :: acc)) cs
    else if c = '\n' then .word acc.reverse :: .lineEnd :: scan .free cs
    else if c = ' ' || c = '\t' then .word acc.reverse :: .blank :: scan .free cs
    else if c = '#' then .word acc.reverse :: scan .comment cs
    else if isMark c then .word acc.reverse :: .mark c :: scan .free cs
    else if c = '"' then .word acc.reverse :: scan (.basic []) cs
    else if c = '\'' then .word acc.reverse :: scan (.literal []) cs
    else [.fault]
  | .literal acc, c :: cs =>
    if c = '\'' then .quoted (textOf acc) false :: scan .free cs
    else if isPrintable c then scan (.literal (c :: acc)) cs
    else [.fault]
  | .basic acc, '\\' :: 'u' :: a :: b :: c :: d :: cs =>
    match Text.coded? [a, b, c, d] with
    | some x => scan (.basic (x :: acc)) cs
    | none => [.fault]
  | .basic acc, '\\' :: 'U' :: a :: b :: c :: d :: e :: f :: g :: h :: cs =>
    match Text.coded? [a, b, c, d, e, f, g, h] with
    | some x => scan (.basic (x :: acc)) cs
    | none => [.fault]
  | .basic acc, '\\' :: c :: cs =>
    match shortEscape? c with
    | some x => scan (.basic (x :: acc)) cs
    | none => [.fault]
  | .basic acc, c :: cs =>
    if c = '"' then .quoted (textOf acc) false :: scan .free cs
    else if isPrintable c && c ≠ '\\' then scan (.basic (c :: acc)) cs
    else [.fault]
  -- Up to two quotes may stand before the closing ones.
  | .longLiteral acc, '\'' :: '\'' :: '\'' :: '\'' :: '\'' :: cs =>
    .quoted (textOf ('\'' :: '\'' :: acc)) true :: scan .free cs
  | .longLiteral acc, '\'' :: '\'' :: '\'' :: '\'' :: cs =>
    .quoted (textOf ('\'' :: acc)) true :: scan .free cs
  | .longLiteral acc, '\'' :: '\'' :: '\'' :: cs => .quoted (textOf acc) true :: scan .free cs
  | .longLiteral acc, '\r' :: '\n' :: cs => scan (.longLiteral ('\n' :: acc)) cs
  | .longLiteral acc, c :: cs =>
    if isPrintable c || c = '\n' then scan (.longLiteral (c :: acc)) cs else [.fault]
  | .longBasic acc true, ' ' :: cs => scan (.longBasic acc true) cs
  | .longBasic acc true, '\t' :: cs => scan (.longBasic acc true) cs
  | .longBasic acc true, '\n' :: cs => scan (.longBasic acc true) cs
  | .longBasic acc true, '\r' :: '\n' :: cs => scan (.longBasic acc true) cs
  | .longBasic acc _, '"' :: '"' :: '"' :: '"' :: '"' :: cs =>
    .quoted (textOf ('"' :: '"' :: acc)) true :: scan .free cs
  | .longBasic acc _, '"' :: '"' :: '"' :: '"' :: cs =>
    .quoted (textOf ('"' :: acc)) true :: scan .free cs
  | .longBasic acc _, '"' :: '"' :: '"' :: cs => .quoted (textOf acc) true :: scan .free cs
  | .longBasic acc _, '\r' :: '\n' :: cs => scan (.longBasic ('\n' :: acc) false) cs
  | .longBasic acc _, '\\' :: 'u' :: a :: b :: c :: d :: cs =>
    match Text.coded? [a, b, c, d] with
    | some x => scan (.longBasic (x :: acc) false) cs
    | none => [.fault]
  | .longBasic acc _, '\\' :: 'U' :: a :: b :: c :: d :: e :: f :: g :: h :: cs =>
    match Text.coded? [a, b, c, d, e, f, g, h] with
    | some x => scan (.longBasic (x :: acc) false) cs
    | none => [.fault]
  | .longBasic acc _, '\\' :: c :: cs =>
    match shortEscape? c with
    | some x => scan (.longBasic (x :: acc) false) cs
    | none =>
      -- No escape, so only blanks may stand before the end of the line.
      if c = '\n' then scan (.longBasic acc true) cs
      else if c = ' ' || c = '\t' || c = '\r' then scan (.lineBreak acc) cs
      else [.fault]
  | .longBasic acc _, c :: cs =>
    if (isPrintable c || c = '\n') && c ≠ '\\' then scan (.longBasic (c :: acc) false) cs
    else [.fault]
  | .lineBreak acc, c :: cs =>
    if c = '\n' then scan (.longBasic acc true) cs
    else if c = ' ' || c = '\t' || c = '\r' then scan (.lineBreak acc) cs
    else [.fault]

def tokens (cs : List Char) : List Token :=
  scan .free cs

end BearerAuth.Toml
