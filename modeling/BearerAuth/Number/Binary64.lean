/-!
# Finite double-precision numbers

A finite IEEE 754 binary64 number is kept as a sign, a mantissa and an exponent, and every
operation is exact arithmetic on fractions followed by one rounding to the nearest number, ties to
the even mantissa. No machine floating point is involved.
-/

namespace BearerAuth.Number

/-- A finite binary64 number, `mantissa * 2 ^ exponent` up to its sign. The mantissa is below
`2 ^ 53`; it is at least `2 ^ 52` unless the exponent is the least one, `-1074`. -/
structure Binary64 where
  /-- Whether the number carries a minus sign; zero has both signs. -/
  negative : Bool
  /-- The significant bits. -/
  mantissa : Nat
  /-- The power of two. -/
  exponent : Int
  deriving DecidableEq, Repr

/-- A fraction of natural numbers. -/
structure Fraction where
  num : Nat
  den : Nat
  deriving DecidableEq, Repr

/-- The fraction `num * base ^ exponent / den`. -/
def Fraction.scale (q : Fraction) (base : Nat) (exponent : Int) : Fraction :=
  if 0 ≤ exponent then ⟨q.num * Nat.pow base exponent.toNat, q.den⟩
  else ⟨q.num, q.den * Nat.pow base (-exponent).toNat⟩

/-- The integer nearest to a fraction, ties to even. -/
def Fraction.nearest (q : Fraction) : Nat :=
  let whole := q.num / q.den
  let twice := 2 * (q.num % q.den)
  if twice > q.den ∨ (twice = q.den ∧ whole % 2 = 1) then whole + 1 else whole

namespace Binary64

def zero (negative : Bool) : Binary64 :=
  ⟨negative, 0, -1074⟩

/-- Exponent of the last place that a number near `q` can use. -/
def placeOf (q : Fraction) : Int :=
  let guess := (q.num.log2 : Int) - (q.den.log2 : Int) - 52
  let scaled := q.scale 2 (-guess)
  let place := if scaled.num / scaled.den < Nat.pow 2 52 then guess - 1 else guess
  max place (-1074)

/-- The number nearest to a fraction, or nothing when it lies beyond the largest finite number. -/
def ofFraction (negative : Bool) (q : Fraction) : Option Binary64 :=
  if q.num = 0 then some (zero negative)
  else
    let place := placeOf q
    let mantissa := (q.scale 2 (-place)).nearest
    let (mantissa, place) :=
      if mantissa = Nat.pow 2 53 then (Nat.pow 2 52, place + 1) else (mantissa, place)
    if place > 971 then none else some ⟨negative, mantissa, place⟩

def magnitude (x : Binary64) : Fraction :=
  (⟨x.mantissa, 1⟩ : Fraction).scale 2 x.exponent

/-- Whether the number is a zero of either sign. -/
def isZero (x : Binary64) : Bool :=
  x.mantissa == 0

/-- Product, or nothing on overflow. -/
def mul (x y : Binary64) : Option Binary64 :=
  ofFraction (x.negative != y.negative)
    ⟨x.magnitude.num * y.magnitude.num, x.magnitude.den * y.magnitude.den⟩

/-- Quotient by a number other than zero, or nothing on overflow. -/
def div (x y : Binary64) : Option Binary64 :=
  ofFraction (x.negative != y.negative)
    ⟨x.magnitude.num * y.magnitude.den, x.magnitude.den * y.magnitude.num⟩

/-- The number nearest to `digits * 10 ^ exponent`. Exponents far outside the range are settled
without computing the power. -/
def ofDecimal (negative : Bool) (digits : Nat) (exponent : Int) : Option Binary64 :=
  if digits = 0 then some (zero negative)
  else if exponent > 400 then none
  else if exponent < -400 - (digits.log2 : Int) then some (zero negative)
  else ofFraction negative ((⟨digits, 1⟩ : Fraction).scale 10 exponent)

/-- The integer nearest to the absolute value, halves rounded up. -/
def roundedMagnitude (x : Binary64) : Nat :=
  let q := x.magnitude
  (2 * q.num + q.den) / (2 * q.den)

end Binary64

end BearerAuth.Number
