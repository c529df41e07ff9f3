import Fieldwise.Value.Basic

/-!
Contract: the values of written numbers.

Owns: which written numbers are integers and which are floating-point numbers,
the digits of the latter that count, and their rounding.

Does **not** own: where a number ends in a longer text, and whether it is well
formed. What is read here is a sign, digits, a point with digits, and an exponent,
of which everything but the first digits may be missing.
-/

set_option autoImplicit false

namespace Fieldwise

namespace Decimal.Binary64

/-! ## Scaling by a power of ten -/

/-- A power of ten, rounded to floating point. Beyond `10 ^ 308` it is infinite. -/
def powerOfTen (exponent : Nat) : Float :=
  Float.ofScientific 1 false (min exponent 309)

/-- The number `coefficient * 10 ^ exponent` as floating-point arithmetic has it:
the coefficient and the power of ten are rounded first, and their product or
quotient is rounded again, so its last digits may differ from those of the nearest
number. A division by more than `10 ^ 308` is done in two steps. Zero stays zero,
whatever the exponent is. -/
def scaled (coefficient : Nat) (exponent : Int) : Float :=
  let start := Float.ofNat coefficient
  if coefficient = 0 then start
  else if 0 ≤ exponent then start * powerOfTen exponent.toNat
  else
    let places := exponent.natAbs
    start / powerOfTen (min places 308) / powerOfTen (places - 308)

/-- A magnitude with its sign. Zero keeps the sign. -/
def withSign (negative : Bool) (magnitude : Float) : Binary64 :=
  ⟨(if negative then -magnitude else magnitude).toBits⟩

/-- The floating-point number nearest to an integer. -/
def ofInt (number : Int) : Binary64 :=
  withSign (number < 0) (Float.ofNat number.natAbs)

/-! ## Coefficients -/

/-- The greatest coefficient a number is read with: 64 bits hold it. -/
def greatestCoefficient : Nat := 18446744073709551615

/-- The coefficient that a run of digits continues, up to the first digit that
would take it above the greatest one, and the count of the digits from that one
on, which are passed over. -/
def gather (coefficient : Nat) : List Char → Nat × Nat
  | [] => (coefficient, 0)
  | digit :: digits =>
      let longer := 10 * coefficient + (digit.toNat - '0'.toNat)
      if longer ≤ greatestCoefficient then gather longer digits
      else (coefficient, digits.length + 1)

/-! ## Numerals -/

/-- The floating-point number of a well-formed numeral. A digit passed over before
the point still raises the power of ten; one passed over after it does nothing. The
digits after the point continue the coefficient even where one before it was passed
over. -/
def ofNumeral (token : List Char) : Binary64 :=
  let unsigned := token.dropWhile (· = '-')
  let mantissa := unsigned.takeWhile fun char => char ≠ 'e' && char ≠ 'E'
  let power := (Text.integer? (unsigned.drop (mantissa.length + 1))).getD 0
  let whole := mantissa.takeWhile (· ≠ '.')
  let fraction := mantissa.drop (whole.length + 1)
  let (leading, passedBefore) := gather 0 whole
  let (coefficient, passedAfter) := gather leading fraction
  withSign (token.head? = some '-')
    (scaled coefficient (power + passedBefore - (fraction.length - passedAfter : Nat)))

example : gather 0 "18446744073709551619".toList = (1844674407370955161, 1) := by decide

example : ofNumeral "-0e400".toList = ⟨0x8000000000000000⟩
    ∧ ofNumeral "0.5".toList = ⟨0x3fe0000000000000⟩ := by decide +kernel

end Decimal.Binary64

namespace Value

/-- The integer of a numeral without point and exponent, where 64 bits hold it,
signed or unsigned. Zero with a sign is no integer, for an integer could not keep
the sign. -/
def wholeNumber? (token : List Char) : Option Int :=
  if token = ['-', '0'] then none
  else
    (Text.integer? token).filter fun number =>
      -9223372036854775808 ≤ number && number ≤ 18446744073709551615

/-- The value of a well-formed numeral: an integer where it is one, else a
floating-point number. -/
def ofNumeral (token : List Char) : Value :=
  match wholeNumber? token with
  | some number => .integer number
  | none => .float (Decimal.Binary64.ofNumeral token)

end Value

end Fieldwise
