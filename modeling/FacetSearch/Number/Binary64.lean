namespace FacetSearch

/-!
# Binary64 numbers

A double-precision number is kept as its 64 bits, so that equality is equality
of bits and every computation on it is exact arithmetic on natural numbers.
The nearest number to a decimal is found by rounding a quotient to nearest,
ties going to the even neighbour.
-/

/-- A double-precision floating-point number, by its bit pattern. -/
structure Binary64 where
  bits : UInt64
  deriving DecidableEq, Repr, Inhabited

namespace Binary64

/-- The weight of the lowest exponent bit. -/
def fractionSpan : Nat := Nat.pow 2 52

/-- The sign bit. -/
def negative (x : Binary64) : Bool :=
  Nat.pow 2 63 ≤ x.bits.toNat

/-- The biased exponent field. -/
def exponentField (x : Binary64) : Nat :=
  x.bits.toNat / fractionSpan % 2048

/-- The fraction field. -/
def fraction (x : Binary64) : Nat :=
  x.bits.toNat % fractionSpan

/-- Neither an infinity nor a NaN. -/
def isFinite (x : Binary64) : Bool :=
  x.exponentField != 2047

/-- The integer `m` of the magnitude `m * 2 ^ q` of a finite number. -/
def significand (x : Binary64) : Nat :=
  if x.exponentField = 0 then x.fraction else fractionSpan + x.fraction

/-- The exponent `q` of the magnitude `m * 2 ^ q` of a finite number. -/
def exponent (x : Binary64) : Int :=
  if x.exponentField = 0 then -1074 else (x.exponentField : Int) - 1075

/-- Positive zero. -/
def zero : Binary64 := ⟨0⟩

/-- The same magnitude with the sign bit turned on or off. -/
def withSign
    (negative : Bool)
    (magnitude : Nat) :
    Binary64 :=
  ⟨UInt64.ofNat (magnitude + if negative then Nat.pow 2 63 else 0)⟩

/-- The quotient rounded to nearest, ties to even. -/
def roundQuotient (numerator denominator : Nat) : Nat :=
  let quotient := numerator / denominator
  let twice := 2 * (numerator % denominator)
  if twice < denominator then quotient
  else if denominator < twice then quotient + 1
  else if quotient % 2 = 0 then quotient
  else quotient + 1

/-- `numerator / denominator` divided by `2 ^ q`, as a numerator and denominator. -/
def scaleDown
    (numerator denominator : Nat)
    (q : Int) :
    Nat × Nat :=
  (numerator * Nat.pow 2 (-q).toNat, denominator * Nat.pow 2 q.toNat)

/--
The bits of the magnitude nearest to a positive quotient.

The exponent is the one that leaves fifty-three bits before the point, but not
below the subnormal exponent.  A significand that rounds up to the next power
of two carries into the exponent field by itself.
-/
def nearestMagnitude (numerator denominator : Nat) : Nat :=
  let guess : Int := (numerator.log2 : Int) - (denominator.log2 : Int) - 53
  let scaled := scaleDown numerator denominator guess
  let fitting := if scaled.2 * Nat.pow 2 53 ≤ scaled.1 then guess + 1 else guess
  let q := max fitting (-1074)
  let final := scaleDown numerator denominator q
  (q + 1074).toNat * fractionSpan + roundQuotient final.1 final.2

/-- The least magnitude that is no longer finite. -/
def infinityBits : Nat := 2047 * fractionSpan

/-- The number nearest to a quotient; `none` when its magnitude is too large. -/
def ofQuotient?
    (negative : Bool)
    (numerator denominator : Nat) :
    Option Binary64 :=
  if numerator = 0 then
    some (withSign negative 0)
  else
    let magnitude := nearestMagnitude numerator denominator
    if infinityBits ≤ magnitude then none else some (withSign negative magnitude)

/--
The number nearest to `digits * 10 ^ scale`, where `digits` has at most `width`
decimal digits; `none` when its magnitude is too large.

A decimal far outside the range is settled by its width alone, so that an
exponent of any length costs nothing.
-/
def ofDecimal?
    (negative : Bool)
    (digits width : Nat)
    (scale : Int) :
    Option Binary64 :=
  if digits = 0 then
    some (withSign negative 0)
  else if 400 < scale then
    none
  else if scale + width < -400 then
    some (withSign negative 0)
  else
    ofQuotient? negative (digits * Nat.pow 10 scale.toNat) (Nat.pow 10 (-scale).toNat)

/-- The number nearest to an integer; `none` when its magnitude is too large. -/
def ofInt? (value : Int) : Option Binary64 :=
  ofQuotient? (value < 0) value.natAbs 1

end Binary64

end FacetSearch
