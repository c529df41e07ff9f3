import Fieldwise.Decimal.Binary64

/-!
Contract: the shortest decimal that reads back as a given floating-point number.

Owns: the interval of reals that round to the number, the search for the
coarsest decimal grid with a point in it, and the choice of the point nearest to
the number on that grid.

Does **not** own: how the chosen digits are laid out as text
(`Fieldwise.Value.Printer`).

All comparisons are exact, in natural numbers over a common denominator.
-/

set_option autoImplicit false

namespace Fieldwise.Decimal

/-- The number `coefficient * 10 ^ exponent`. -/
structure Scientific where
  coefficient : Nat
  exponent : Int
deriving DecidableEq

/-- A positive number with the reals that round to it, as numerators over one
common denominator. Both ends belong to the interval exactly when `closed`. -/
structure RoundingInterval where
  low : Nat
  center : Nat
  high : Nat
  denominator : Nat
  closed : Bool

/-- The rounding interval of a positive finite number. It reaches half the
spacing on each side, a quarter below a power of two, and contains its ends
when the significand is even. -/
def Binary64.roundingInterval (number : Binary64) : RoundingInterval :=
  let scale := Nat.pow 2 (number.exponent - 2).toNat
  let below := if number.isSpacingBoundary then 1 else 2
  { low := (4 * number.significand - below) * scale
    center := 4 * number.significand * scale
    high := (4 * number.significand + 2) * scale
    denominator := Nat.pow 2 (2 - number.exponent).toNat
    closed := number.significand % 2 = 0 }

namespace RoundingInterval

/-- Does the point `coefficient * 10 ^ exponent` lie in the interval? -/
def contains (interval : RoundingInterval) (point : Scientific) : Bool :=
  let position := point.coefficient * Nat.pow 10 point.exponent.toNat * interval.denominator
  let scale := Nat.pow 10 (-point.exponent).toNat
  if interval.closed then
    interval.low * scale ≤ position && position ≤ interval.high * scale
  else interval.low * scale < position && position < interval.high * scale

/-- The point of the grid of multiples of `10 ^ exponent` that lies in the
interval and is nearest to its center, an even coefficient winning a tie. Only
the two neighbours of the center need a test, since the interval is convex. -/
def gridPoint? (interval : RoundingInterval) (exponent : Int) : Option Scientific :=
  let unit := Nat.pow 10 exponent.toNat * interval.denominator
  let center := interval.center * Nat.pow 10 (-exponent).toNat
  let floor := center / unit
  let below : Scientific := ⟨floor, exponent⟩
  let above : Scientific := ⟨floor + 1, exponent⟩
  match interval.contains below, interval.contains above with
  | false, false => none
  | true, false => some below
  | false, true => some above
  | true, true =>
      let remainder := 2 * (center % unit)
      if remainder < unit then some below
      else if unit < remainder then some above
      else if floor % 2 = 0 then some below
      else some above

end RoundingInterval

/-- The exponents of the decimal grids, coarsest first: every positive finite
number is hit by one of them. -/
def gridExponents : List Int :=
  (List.range 634).map fun (index : Nat) => 309 - (index : Int)

/-- The decimal with the fewest digits that rounds to the magnitude of the
number and, among those, the nearest to it. Zero has the coefficient zero. -/
def Binary64.shortest (number : Binary64) : Scientific :=
  if number.isZero then ⟨0, 0⟩
  else (gridExponents.findSome? number.roundingInterval.gridPoint?).getD ⟨0, 0⟩

end Fieldwise.Decimal
