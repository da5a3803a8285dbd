import BearerAuth.Text.CaseTable
import BearerAuth.Text.HiddenTable

/-!
# Quoted text in diagnostics

Diagnostic output writes a text between double quotes, with backslash escapes for the quote, the
backslash, the common control characters and every character that does not show.
-/

namespace BearerAuth.Text

def quotedChar (c : Char) : List Char :=
  if c = '"' then ['\\', '"']
  else if c = '\\' then ['\\', '\\']
  else if c = '\n' then ['\\', 'n']
  else if c = '\r' then ['\\', 'r']
  else if c = '\t' then ['\\', 't']
  else if c.toNat = 0 then ['\\', '0']
  else if inRanges hiddenRanges c.toNat then
    ['\\', 'u', '\x7b'] ++ Nat.toDigits 16 c.toNat ++ ['\x7d']
  else [c]

/-- A text between double quotes, escaped so that it stays on one line and shows every character. -/
def quoted (s : String) : String :=
  String.ofList ('"' :: s.toList.flatMap quotedChar ++ ['"'])

def bracketed (items : List String) : String :=
  "[" ++ String.intercalate ", " items ++ "]"

end BearerAuth.Text
