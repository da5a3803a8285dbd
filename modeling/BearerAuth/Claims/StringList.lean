import BearerAuth.Claims.Error
import BearerAuth.Json.Printer
import BearerAuth.Text.Blank
import BearerAuth.Text.Lower

/-!
# Lists of lower-case texts

The scope and the audience of a payload are lists of lower-case texts. A claim gives them as one
string of words between blanks or as an array. In an array `null` is dropped, a string loses its
surrounding blanks, and any other entry stands for its compact JSON text.
-/

namespace BearerAuth.Claims

def lowerWords (s : String) : List String :=
  (Text.words (Text.lowerChars s.toList)).map String.ofList

/-- The text that an entry of an array stands for. -/
def entryText? : Json → Option String
  | .null => none
  | .str s => some (Text.lower (Text.trim s))
  | v => some (Text.lower v.compact)

/-- The entries of an array that are not dropped. -/
def entryTexts (entries : List Json) : List String :=
  (entries.filterMap entryText?).filter (· ≠ "")

def nonempty (items : List String) : Except ClaimsError (List String) :=
  if items.isEmpty then .error .emptyList else .ok items

def stringList : Json → Except ClaimsError (List String)
  | .str s => nonempty (lowerWords s)
  | .arr entries => nonempty (entryTexts entries)
  | _ => .error .expectedStringOrList

end BearerAuth.Claims
