/-!
Contract: floating-point numbers of 64 bits, as a sign, an integer significand
and a power of two.

Owns: the decoding of the bit pattern, finiteness, and the numerical equality
of two numbers.

Does **not** own: arithmetic. No rule computes with a floating-point number; it
is compared for equality and shown.
-/

set_option autoImplicit false

namespace Fieldwise.Decimal

/-- A floating-point number, given by its bit pattern: one sign bit, eleven
exponent bits and fifty-two fraction bits. -/
structure Binary64 where
  bits : UInt64
deriving DecidableEq

namespace Binary64

/-- The number of values of the fraction bits: two to the power of 52. -/
def fractionCount : Nat := 4503599627370496

/-- The value of the sign bit: two to the power of 63. -/
def signWeight : Nat := 9223372036854775808

/-- The exponent bits, as a number. The largest one, 2047, marks the patterns
that are not finite numbers. -/
def exponentField (number : Binary64) : Nat :=
  number.bits.toNat / fractionCount % 2048

def fraction (number : Binary64) : Nat :=
  number.bits.toNat % fractionCount

def isNegative (number : Binary64) : Bool :=
  signWeight ≤ number.bits.toNat

def isFinite (number : Binary64) : Bool :=
  number.exponentField ≠ 2047

/-- Both zeros, the positive and the negative one. -/
def isZero (number : Binary64) : Bool :=
  number.bits.toNat % signWeight = 0

/-- The integer significand: the magnitude is
`significand * 2 ^ exponent`. -/
def significand (number : Binary64) : Nat :=
  if number.exponentField = 0 then number.fraction else number.fraction + fractionCount

/-- The power of two that belongs to `significand`. -/
def exponent (number : Binary64) : Int :=
  (max number.exponentField 1 : Nat) - 1075

/-- The number below is nearer than the number above: so it is at a power of
two, except at the least one, where the spacing does not change. -/
def isSpacingBoundary (number : Binary64) : Bool :=
  number.fraction = 0 && number.exponentField > 1

/-- Numerical equality of finite numbers. The two zeros are the same number, and
any other number has one bit pattern. -/
def sameNumber (left right : Binary64) : Bool :=
  left = right || (left.isZero && right.isZero)

theorem sameNumber_self (number : Binary64) : number.sameNumber number = true := by
  simp [sameNumber]

end Binary64

end Fieldwise.Decimal
