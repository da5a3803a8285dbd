import BearerAuth.Http.Percent

/-!
# Form bodies

The urlencoded form of a list of names and values. ASCII letters, digits and the four characters
`*`, `-`, `.` and `_` stand for themselves, a space becomes a plus sign, and every other byte is
percent-encoded.
-/

namespace BearerAuth.Http.Form

def isPlain (b : UInt8) : Bool :=
  let c := Char.ofNat b.toNat
  ('A' ≤ c && c ≤ 'Z') || ('a' ≤ c && c ≤ 'z') || ('0' ≤ c && c ≤ '9') ||
    c = '*' || c = '-' || c = '.' || c = '_'

def encodeByte (b : UInt8) : List Char :=
  if b = 0x20 then ['+'] else if isPlain b then [Char.ofNat b.toNat] else Percent.encodeByte b

def encodeText (s : String) : List Char :=
  (Text.Utf8.encode s).flatMap encodeByte

def encodePair (pair : String × String) : List Char :=
  encodeText pair.1 ++ '=' :: encodeText pair.2

def encode (pairs : List (String × String)) : String :=
  String.ofList (List.intercalate ['&'] (pairs.map encodePair))

def contentType : String := "application/x-www-form-urlencoded"

end BearerAuth.Http.Form
