import BearerAuth.Text.CaseTable

/-!
# Lower-casing

Full Unicode lower-casing, with its two rules beyond the one-to-one table:

- U+0130 becomes an `i` followed by U+0307;
- a capital sigma becomes the final form when a cased letter precedes it and none follows it,
  case-ignorable characters being skipped on both sides.

No other character looks at its neighbours.
-/

namespace BearerAuth.Text

/-- Lower-case image of a code point under the one-to-one table. -/
def lowerCode (n : Nat) : Nat :=
  match caseRuns.find? (fun r => r.covers n) with
  | some r => r.apply n
  | none => n

/-- Lower-case image of one character, away from the final-sigma rule. -/
def lowerChar (c : Char) : List Char :=
  if c.toNat < 0x80 then
    [if 0x41 ≤ c.toNat ∧ c.toNat ≤ 0x5A then Char.ofNat (c.toNat + 32) else c]
  else if c.toNat = 0x130 then ['i', Char.ofNat 0x307]
  else [Char.ofNat (lowerCode c.toNat)]

/-- Whether a character is skipped when the neighbours of a capital sigma are looked up. -/
def isCaseIgnorable (c : Char) : Bool :=
  inRanges caseIgnorableRanges c.toNat

/-- Whether a character that is not case-ignorable is a cased letter. -/
def isCased (c : Char) : Bool :=
  inRanges casedRanges c.toNat

/-- Whether the first character that is not case-ignorable is a cased letter. -/
def startsCased : List Char → Bool
  | [] => false
  | c :: cs => if isCaseIgnorable c then startsCased cs else isCased c

/-- What is known about the text before a position once `c` has been passed: whether its last
character that is not case-ignorable is a cased letter. -/
def casedAfter (before : Bool) (c : Char) : Bool :=
  if isCaseIgnorable c then before else isCased c

/-- Lower-case image of a capital sigma between a text that ends cased or not and the text `cs`. -/
def lowerSigma (before : Bool) (cs : List Char) : Char :=
  if before && !startsCased cs then 'ς' else 'σ'

/-- Lower-casing of the text that follows a position before which `before` is known. -/
def lowerFrom (before : Bool) : List Char → List Char
  | [] => []
  | c :: cs =>
    (if c = 'Σ' then [lowerSigma before cs] else lowerChar c) ++ lowerFrom (casedAfter before c) cs

def lowerChars (cs : List Char) : List Char :=
  lowerFrom false cs

def lower (s : String) : String :=
  String.ofList (lowerChars s.toList)

end BearerAuth.Text
