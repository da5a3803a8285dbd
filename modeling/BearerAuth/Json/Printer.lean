import BearerAuth.Json.Value
import BearerAuth.Number.Layout

/-!
# Compact JSON text

The compact form has no blanks between tokens and keeps the order of members. In strings the quote,
the backslash and the control characters below U+0020 are escaped; every other character stands for
itself.
-/

namespace BearerAuth.Json

def escapedChar (c : Char) : List Char :=
  if c = '"' then ['\\', '"']
  else if c = '\\' then ['\\', '\\']
  else if c.toNat = 8 then ['\\', 'b']
  else if c.toNat = 12 then ['\\', 'f']
  else if c = '\n' then ['\\', 'n']
  else if c = '\r' then ['\\', 'r']
  else if c = '\t' then ['\\', 't']
  else if c.toNat < 32 then
    ['\\', 'u', '0', '0', Nat.digitChar (c.toNat / 16), Nat.digitChar (c.toNat % 16)]
  else [c]

def writeString (s : String) : List Char :=
  '"' :: s.toList.flatMap escapedChar ++ ['"']

def writeNumber : JsonNumber → List Char
  | .int n => Number.signedDigits n
  | .double x => (Number.Layout.json.render x).toList

mutual

def write : Json → List Char
  | .null => ['n', 'u', 'l', 'l']
  | .bool true => ['t', 'r', 'u', 'e']
  | .bool false => ['f', 'a', 'l', 's', 'e']
  | .num n => writeNumber n
  | .str s => writeString s
  | .arr [] => ['[', ']']
  | .arr (v :: rest) => '[' :: (write v ++ writeItems rest)
  | .obj [] => ['\x7b', '\x7d']
  | .obj ((k, v) :: rest) => '\x7b' :: (writeString k ++ ':' :: (write v ++ writeMembers rest))

/-- The remaining items of an array, with the closing bracket. -/
def writeItems : List Json → List Char
  | [] => [']']
  | v :: rest => ',' :: (write v ++ writeItems rest)

/-- The remaining members of an object, with the closing brace. -/
def writeMembers : List (String × Json) → List Char
  | [] => ['\x7d']
  | (k, v) :: rest => ',' :: (writeString k ++ ':' :: (write v ++ writeMembers rest))

end

def compact (v : Json) : String :=
  String.ofList v.write

end BearerAuth.Json
