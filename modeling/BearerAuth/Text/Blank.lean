import BearerAuth.Text.Cut

/-!
# Blank characters, trimming and words

The blank characters are those with the Unicode `White_Space` property, which is wider than the
ASCII class of `Char.isWhitespace`. Everything here is stated on lists of characters; the versions
on `String` are thin wrappers.
-/

namespace BearerAuth.Text

/-- Code points with the Unicode `White_Space` property. -/
def isBlankCode (n : Nat) : Bool :=
  (9 ≤ n && n ≤ 13) || n == 0x20 || n == 0x85 || n == 0xA0 || n == 0x1680 ||
    (0x2000 ≤ n && n ≤ 0x200A) || n == 0x2028 || n == 0x2029 || n == 0x202F || n == 0x205F ||
    n == 0x3000

def isBlank (c : Char) : Bool :=
  isBlankCode c.toNat

/-! ## Trimming -/

def trimLeft (cs : List Char) : List Char :=
  cs.dropWhile isBlank

def trimRight (cs : List Char) : List Char :=
  (cs.reverse.dropWhile isBlank).reverse

def trimmed (cs : List Char) : List Char :=
  trimRight (trimLeft cs)

def trim (s : String) : String :=
  String.ofList (trimmed s.toList)

/-! ## Words -/

/-- The maximal runs of characters that are not blank. -/
def words (cs : List Char) : List (List Char) :=
  (pieces isBlank cs).filter (fun w => !w.isEmpty)

end BearerAuth.Text
