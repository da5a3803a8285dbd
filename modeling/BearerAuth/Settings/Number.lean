import BearerAuth.Number.Layout
import BearerAuth.Text.Digit
import BearerAuth.Text.Lower

/-!
# Numbers in settings

Settings may hold numbers that JSON cannot: the infinities and what is not a number. A decimal may
leave out the digits on one side of its point, and a number beyond the largest finite one is
infinite.
-/

namespace BearerAuth

open Number

/-- A number with a fraction, as settings give it. -/
inductive SettingNumber where
  | finite (x : Binary64)
  | infinite (negative : Bool)
  | notANumber
  deriving DecidableEq, Repr

namespace SettingNumber

def text : SettingNumber → String
  | finite x => Layout.plain.render x
  | infinite negative => if negative then "-inf" else "inf"
  | notANumber => "NaN"

/-- A number as a count of 64 bits: rounded to the nearest, and to the nearest bound from
outside. What is not a number counts as zero. -/
def count : SettingNumber → Nat
  | finite x => if x.negative then 0 else min x.roundedMagnitude maxUInt64
  | infinite negative => if negative then 0 else maxUInt64
  | notANumber => 0

def exponent? : List Char → Option Int
  | [] => some 0
  | 'e' :: cs | 'E' :: cs => signedValue? cs
  | _ => none

/-- The digits after a point, and what follows them. -/
def fractionDigits : List Char → List Char × List Char
  | '.' :: cs => (cs.takeWhile Text.isDigit, cs.dropWhile Text.isDigit)
  | cs => ([], cs)

/-- Digits and power of ten of a decimal without a sign. -/
def decimal? (cs : List Char) : Option (Nat × Int) := do
  let whole := cs.takeWhile Text.isDigit
  let (fraction, rest) := fractionDigits (cs.dropWhile Text.isDigit)
  let digits ← digitsValue? (whole ++ fraction)
  let exponent ← exponent? rest
  return (digits, exponent - fraction.length)

def ofDecimal (negative : Bool) (digits : Nat) (exponent : Int) : SettingNumber :=
  match Binary64.ofDecimal negative digits exponent with
  | some x => finite x
  | none => infinite negative

def unsigned? (negative : Bool) (cs : List Char) : Option SettingNumber :=
  let word := String.ofList (Text.lowerChars cs)
  if word = "inf" || word = "infinity" then some (infinite negative)
  else if word = "nan" then some notANumber
  else (decimal? cs).map fun (digits, exponent) => ofDecimal negative digits exponent

def ofChars? : List Char → Option SettingNumber
  | '+' :: cs => unsigned? false cs
  | '-' :: cs => unsigned? true cs
  | cs => unsigned? false cs

end SettingNumber

end BearerAuth
