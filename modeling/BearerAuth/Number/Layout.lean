import BearerAuth.Number.Shortest

/-!
# Layout of decimal numbers

A layout says how the digits and the power of ten of a decimal number become text: where the
positional form ends, whether a whole number keeps a `.0`, and how the exponent is written.
-/

namespace BearerAuth.Number

/-- The decisions of a decimal number format. -/
structure Layout where
  /-- Positional notation is used while the leading digit is at this power of ten or above. -/
  least : Option Int
  /-- Positional notation is used while the leading digit is at this power of ten or below. -/
  greatest : Option Int
  /-- Whether a whole number in positional notation ends in `.0`. -/
  keepsPoint : Bool
  deriving Repr

/-- The layout of JSON numbers: positional from `1e-5` up to below `1e16`. -/
def Layout.json : Layout :=
  ⟨some (-5), some 15, true⟩

/-- The layout of settings turned into text: always positional, whole numbers without a point. -/
def Layout.plain : Layout :=
  ⟨none, none, false⟩

def digitsOf (n : Nat) : List Char :=
  Nat.toDigits 10 n

/-- Positional form of `digits * 10 ^ exponent`. -/
def positional (keepsPoint : Bool) (d : Decimal) : List Char :=
  let ds := digitsOf d.digits
  if 0 ≤ d.exponent then
    ds ++ List.replicate d.exponent.toNat '0' ++ (if keepsPoint then ['.', '0'] else [])
  else
    let places := (-d.exponent).toNat
    if ds.length > places then
      ds.take (ds.length - places) ++ '.' :: ds.drop (ds.length - places)
    else
      '0' :: '.' :: List.replicate (places - ds.length) '0' ++ ds

/-- Scientific form: one digit before the point, and a signed exponent without leading zeros. -/
def scientific (d : Decimal) (lead : Int) : List Char :=
  let fraction :=
    match digitsOf d.digits with
    | [] => []
    | [c] => [c]
    | c :: rest => c :: '.' :: rest
  fraction ++ 'e' :: (if 0 ≤ lead then '+' else '-') :: digitsOf lead.natAbs

/-- A decimal number in a layout, without its sign. -/
def Layout.write (layout : Layout) (d : Decimal) : List Char :=
  let lead := d.exponent + ((digitsOf d.digits).length : Int) - 1
  let fits := (layout.least.all (· ≤ lead) && layout.greatest.all (lead ≤ ·)) || d.digits == 0
  if fits then positional layout.keepsPoint d else scientific d lead

def Layout.render (layout : Layout) (x : Binary64) : String :=
  String.ofList ((if x.negative then ['-'] else []) ++ layout.write x.shortest)

/-! ## Signed integers in text -/

def signedDigits (n : Int) : List Char :=
  if n < 0 then '-' :: digitsOf n.natAbs else digitsOf n.natAbs

def intText (n : Int) : String :=
  String.ofList (signedDigits n)

/-- The value of a run of ASCII digits, when it is one and not empty. -/
def digitsValue? (cs : List Char) : Option Nat :=
  if cs.isEmpty || !cs.all (fun c => '0' ≤ c && c ≤ '9') then none
  else some (cs.foldl (fun n c => n * 10 + (c.toNat - '0'.toNat)) 0)

/-- The integer written as ASCII digits after an optional single sign. -/
def signedValue? : List Char → Option Int
  | '+' :: cs => (digitsValue? cs).map Int.ofNat
  | '-' :: cs => (digitsValue? cs).map fun n : Nat => -(n : Int)
  | cs => (digitsValue? cs).map Int.ofNat

def minInt64 : Int := -0x8000000000000000

def maxInt64 : Int := 0x7fffffffffffffff

def maxUInt64 : Nat := 0xffffffffffffffff

/-- A signed integer in text, if it fits 64 bits. -/
def int64? (cs : List Char) : Option Int :=
  (signedValue? cs).filter fun n => minInt64 ≤ n && n ≤ maxInt64

end BearerAuth.Number
