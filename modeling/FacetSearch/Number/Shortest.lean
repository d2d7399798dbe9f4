import FacetSearch.Number.Binary64

namespace FacetSearch

/-!
# The shortest decimal of a number

A finite number is written with the fewest decimal digits that read back to
it; of several such decimals the nearest one, and of two equally near ones the
one with the even last digit.

The reals that read back to `m * 2 ^ q` form an interval around it, with its
ends when `m` is even.  For one digit, two digits and so on, the two
neighbours of the number on that decimal grid are tested against the interval.
-/

namespace Binary64

/-- A positive decimal `digits * 10 ^ scale`. -/
structure Decimal where
  digits : Nat
  scale : Int
  deriving DecidableEq, Repr

/-- The exponent of the highest decimal digit of `m * 2 ^ q`, for positive `m`. -/
def decimalExponent
    (m : Nat)
    (q : Int) :
    Int :=
  let atLeast (e : Int) : Bool :=
    Nat.pow 10 e.toNat * Nat.pow 2 (-q).toNat ≤
      m * Nat.pow 2 q.toNat * Nat.pow 10 (-e).toNat
  let guess := ((m.log2 + q) * 30103).fdiv 100000
  if !atLeast guess then guess - 1
  else if atLeast (guess + 1) then guess + 1
  else guess

/--
The best decimal on the grid of multiples of `10 ^ scale` that reads back to
`m * 2 ^ q`, if one of the two neighbours on the grid does.
-/
def onGrid?
    (m : Nat)
    (q : Int)
    (scale : Int) :
    Option Nat :=
  let unit := Nat.pow 2 q.toNat * Nat.pow 10 (-scale).toNat
  let step := Nat.pow 2 (-q).toNat * Nat.pow 10 scale.toNat
  let value := m * unit
  let below := if m = fractionSpan ∧ -1074 < q then unit else 2 * unit
  let even := m % 2 = 0
  let readsBack (candidate : Nat) : Bool :=
    let point := 4 * candidate * step
    let lower := 4 * value - below
    let upper := 4 * value + 2 * unit
    (lower < point && point < upper) || (even && (point == lower || point == upper))
  let floor := value / step
  let rest := value % step
  match readsBack floor && floor != 0, readsBack (floor + 1) with
  | true, false => some floor
  | false, true => some (floor + 1)
  | true, true =>
      if 2 * rest < step then some floor
      else if step < 2 * rest then some (floor + 1)
      else if floor % 2 = 0 then some floor
      else some (floor + 1)
  | false, false => none

/-- Divide out every factor ten, raising the scale instead. -/
def dropZeros : Nat → Nat → Int → Decimal
  | 0, digits, scale => ⟨digits, scale⟩
  | fuel + 1, digits, scale =>
      if digits % 10 = 0 then dropZeros fuel (digits / 10) (scale + 1)
      else ⟨digits, scale⟩

/-- Test the grids of `18 - fuel`, `19 - fuel`, … digits in turn. -/
def shortestFrom
    (m : Nat)
    (q : Int)
    (top : Int) :
    Nat → Decimal
  | 0 => ⟨m, q⟩
  | fuel + 1 =>
      let scale := top - (17 - fuel - 1 : Nat)
      match onGrid? m q scale with
      | some digits => dropZeros 20 digits scale
      | none => shortestFrom m q top fuel

/-- The shortest decimal of `m * 2 ^ q`, for positive `m`. -/
def shortest
    (m : Nat)
    (q : Int) :
    Decimal :=
  shortestFrom m q (decimalExponent m q) 17

/--
Lay a decimal out as text: positional from `1e-5` up to below `1e16`, always
with a digit on both sides of the point; otherwise with one digit before the
point and a signed exponent.
-/
def Decimal.render (value : Decimal) : String :=
  let digits := toString value.digits
  let point := (digits.length : Int) + value.scale
  let zeros (count : Int) : String := String.ofList (List.replicate count.toNat '0')
  if -4 ≤ point ∧ point ≤ 16 then
    if point ≤ 0 then
      "0." ++ zeros (-point) ++ digits
    else if 0 ≤ value.scale then
      digits ++ zeros value.scale ++ ".0"
    else
      String.ofList (digits.toList.take point.toNat) ++ "." ++
        String.ofList (digits.toList.drop point.toNat)
  else
    let exponent := point - 1
    let mantissa :=
      match digits.toList with
      | first :: second :: rest => String.ofList (first :: '.' :: second :: rest)
      | _ => digits
    mantissa ++ (if exponent < 0 then "e-" else "e+") ++ toString exponent.natAbs

/-- The text of a number; one that is not finite has none and reads `null`. -/
def render (x : Binary64) : String :=
  if !x.isFinite then
    "null"
  else
    let magnitude := if x.significand = 0 then "0.0" else (shortest x.significand x.exponent).render
    if x.negative then "-" ++ magnitude else magnitude

end Binary64

end FacetSearch
