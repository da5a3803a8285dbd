import BearerAuth.Number.Binary64

/-!
# The fewest digits that read back

The decimal form of a finite binary64 number uses the fewest significant digits that still round to
it, and among those the digits nearest to the number. For one to seventeen digits the two grid
points around the number are tested, in exact arithmetic, against the interval of values that round
to it; the first grid with a hit wins.
-/

namespace BearerAuth.Number

/-- A decimal number `digits * 10 ^ exponent`; the digits do not end in zero unless they are
zero. -/
structure Decimal where
  digits : Nat
  /-- Power of ten of the last digit. -/
  exponent : Int
  deriving DecidableEq, Repr

/-- Removes up to `limit` trailing zeros. -/
def Decimal.strip : Nat → Decimal → Decimal
  | 0, d => d
  | limit + 1, d =>
    if d.digits ≠ 0 ∧ d.digits % 10 = 0 then
      Decimal.strip limit ⟨d.digits / 10, d.exponent + 1⟩
    else d

def Decimal.toFraction (d : Decimal) : Fraction :=
  (⟨d.digits, 1⟩ : Fraction).scale 10 d.exponent

def Fraction.lt (p q : Fraction) : Bool :=
  p.num * q.den < q.num * p.den

namespace Binary64

/-- Distances from the number to the lower and the upper end of the interval of values that round
to it, in quarters of its last place. -/
def gaps (x : Binary64) : Nat × Nat :=
  if x.mantissa = Nat.pow 2 52 ∧ x.exponent > -1074 then (1, 2) else (2, 2)

/-- Whether a decimal number rounds to `x`: the ends of the interval belong to it exactly when the
mantissa is even. -/
def readsBack (x : Binary64) (d : Decimal) : Bool :=
  let quarter : Int := x.exponent - 2
  let low := (⟨4 * x.mantissa - (gaps x).1, 1⟩ : Fraction).scale 2 quarter
  let high := (⟨4 * x.mantissa + (gaps x).2, 1⟩ : Fraction).scale 2 quarter
  let v := d.toFraction
  if x.mantissa % 2 = 0 then !v.lt low && !high.lt v
  else low.lt v && v.lt high

/-- Number of digits before the decimal point: the least `p` with `magnitude < 10 ^ p`. -/
def pointPlace (q : Fraction) : Int :=
  if q.num ≥ q.den then ((Nat.toDigits 10 (q.num / q.den)).length : Int)
  else 1 - ((Nat.toDigits 10 ((q.den + q.num - 1) / q.num - 1)).length : Int)

/-- The grid point with `count` digits that reads back as `x`, the nearer of two. -/
def atDigits? (x : Binary64) (count : Nat) : Option Decimal :=
  let q := x.magnitude
  let place := pointPlace q - (count : Int)
  let scaled := q.scale 10 (-place)
  let below := scaled.num / scaled.den
  let low : Decimal := ⟨below, place⟩
  let high : Decimal := ⟨below + 1, place⟩
  let nearerLow := 2 * (scaled.num % scaled.den) < scaled.den ∨
    (2 * (scaled.num % scaled.den) = scaled.den ∧ below % 2 = 0)
  match readsBack x low, readsBack x high with
  | true, true => some (if nearerLow then low else high)
  | true, false => some low
  | false, true => some high
  | false, false => none

/-- The shortest decimal form of the absolute value. -/
def shortest (x : Binary64) : Decimal :=
  if x.isZero then ⟨0, 0⟩
  else
    match ((List.range 17).map (· + 1)).findSome? (atDigits? x) with
    | some d => d.strip 20
    -- Seventeen digits always read back.
    | none => ⟨0, 0⟩

end Binary64

end BearerAuth.Number
