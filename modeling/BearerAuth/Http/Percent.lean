import BearerAuth.Text.Digit
import BearerAuth.Text.Utf8

/-!
# Percent-encoding

A byte is written as a percent sign and two hexadecimal digits in upper case. Which ASCII characters
are encoded depends on the place; characters beyond ASCII always are, byte by byte.
-/

namespace BearerAuth.Http.Percent

def encodeByte (b : UInt8) : List Char :=
  ['%', Text.hexDigit (b.toNat / 16), Text.hexDigit (b.toNat % 16)]

def encodeChar (c : Char) : List Char :=
  (Text.Utf8.encodeChar c).flatMap encodeByte

/-- A text in which the ASCII characters of `encoded` and all characters beyond ASCII are
encoded. -/
def encode (encoded : Char → Bool) (cs : List Char) : List Char :=
  cs.flatMap fun c => if 0x7F ≤ c.toNat || encoded c then encodeChar c else [c]

/-- The bytes of a text whose encoded bytes are decoded; a percent sign without two digits after it
stands for itself. -/
def decode : List Char → List UInt8
  | [] => []
  | '%' :: a :: b :: rest =>
    match Text.hexValue? a, Text.hexValue? b with
    | some x, some y => UInt8.ofNat (x * 16 + y) :: decode rest
    | _, _ => 0x25 :: decode (a :: b :: rest)
  | c :: rest => Text.Utf8.encodeChar c ++ decode rest

/-! ## What is encoded where -/

def controls (c : Char) : Bool :=
  c.toNat < 0x20

def fragment (c : Char) : Bool :=
  controls c || [' ', '"', '<', '>', '\x60'].contains c

def query (c : Char) : Bool :=
  controls c || [' ', '"', '#', '<', '>'].contains c

/-- Characters that are encoded in the query of a special scheme. -/
def specialQuery (c : Char) : Bool :=
  query c || c = '\''

def path (c : Char) : Bool :=
  fragment c || ['#', '?', '^', '\x7b', '\x7d'].contains c

/-- Characters that are encoded in a user name or a password. -/
def userinfo (c : Char) : Bool :=
  path c || ['/', ':', ';', '=', '@', '[', '\\', ']', '|'].contains c

end BearerAuth.Http.Percent
