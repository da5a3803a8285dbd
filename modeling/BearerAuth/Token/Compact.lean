import BearerAuth.Base64Url
import BearerAuth.Text.Utf8

/-!
# Compact tokens

A token is a header, a payload and a signature, each in base64, with dots between them. The last two
dots separate the parts. The signature covers header and payload as they are written.
-/

namespace BearerAuth

/-- The parts of a token as they are written. -/
structure CompactToken where
  header : List Char
  payload : List Char
  signature : List Char
  deriving DecidableEq, Repr

namespace CompactToken

/-- What stands before and after the last dot. -/
def splitLast? : List Char → Option (List Char × List Char)
  | [] => none
  | c :: cs =>
    match splitLast? cs with
    | some (before, after) => some (c :: before, after)
    | none => if c = '.' then some ([], cs) else none

/-- Splits a token at its last two dots. -/
def ofChars? (cs : List Char) : Option CompactToken :=
  match splitLast? cs with
  | none => none
  | some (signed, signature) =>
    (splitLast? signed).map fun (header, payload) => ⟨header, payload, signature⟩

/-- The bytes that the signature covers. -/
def signedBytes (t : CompactToken) : List UInt8 :=
  Text.Utf8.encodeChars (t.header ++ '.' :: t.payload)

end CompactToken

end BearerAuth
