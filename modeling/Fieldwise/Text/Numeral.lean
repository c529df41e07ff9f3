/-!
Contract: decimal and hexadecimal numerals of ASCII digits.

Owns: the reading of unsigned numerals, of signed numerals that fit 64 bits and
of unsigned ones that fit 64 bits, and the canonical text of an integer.

Does **not** own: digits outside ASCII. They are not digits here.
-/

set_option autoImplicit false

namespace Fieldwise.Text

/-! ## Unsigned numerals -/

/-- The value of one or more decimal digits; anything else is no numeral.
Leading zeros are allowed. -/
def natural? (chars : List Char) : Option Nat :=
  if chars ≠ [] ∧ chars.all Char.isDigit then some (Nat.ofDigitChars 10 chars 0)
  else none

/-- Hexadecimal digits, in either case. -/
def isHexDigit (char : Char) : Bool :=
  char.isDigit || ('a' ≤ char && char ≤ 'f') || ('A' ≤ char && char ≤ 'F')

def hexValue (char : Char) : Nat :=
  if char.isDigit then char.toNat - '0'.toNat
  else if 'a' ≤ char then char.toNat - 'a'.toNat + 10
  else char.toNat - 'A'.toNat + 10

/-- The value of a run of hexadecimal digits; an empty run is zero. -/
def hexNumber (chars : List Char) : Nat :=
  chars.foldl (fun value char => 16 * value + hexValue char) 0

/-! ## Numerals of 64 bits -/

/-- The value of a signed numeral. At most one sign is allowed, and it needs
digits after it. -/
def integer? : List Char → Option Int
  | '-' :: digits => (natural? digits).map fun value => -(value : Int)
  | '+' :: digits => (natural? digits).map fun value => (value : Int)
  | digits => (natural? digits).map fun value => (value : Int)

/-- The 64-bit integer of a given value; a value out of range has none. -/
def toInt64? (value : Int) : Option Int64 :=
  if -9223372036854775808 ≤ value ∧ value ≤ 9223372036854775807 then
    some (Int64.ofInt value)
  else none

/-- A signed numeral whose value fits 64 bits; one out of range is refused. -/
def int64? (chars : List Char) : Option Int64 :=
  (integer? chars).bind toInt64?

/-- A text without its leading plus sign, if it has one. -/
def dropPlus : List Char → List Char
  | '+' :: digits => digits
  | digits => digits

/-- An unsigned numeral, optionally after a plus sign, whose value fits 64 bits. -/
def uint64? (chars : List Char) : Option UInt64 :=
  (natural? (dropPlus chars)).bind fun value =>
    if value < UInt64.size then some (UInt64.ofNat value) else none

/-! ## Canonical texts -/

def decimal (value : Nat) : List Char :=
  Nat.toDigits 10 value

/-- The canonical numeral of an integer: a minus sign where it is negative. -/
def signedDecimal (value : Int) : List Char :=
  if value < 0 then '-' :: decimal value.natAbs else decimal value.natAbs

/-- The digits of a natural number, with zeros in front up to a given width. -/
def padded (width value : Nat) : List Char :=
  List.replicate (width - (decimal value).length) '0' ++ decimal value

/-! ## Reading what is written -/

theorem all_isDigit_decimal (value : Nat) : (decimal value).all Char.isDigit = true :=
  List.all_eq_true.2 fun _ member =>
    Nat.isDigit_of_mem_toDigits (by decide) (by decide) member

theorem natural?_decimal (value : Nat) : natural? (decimal value) = some value := by
  rw [natural?, if_pos ⟨Nat.toDigits_ne_nil, all_isDigit_decimal value⟩, decimal,
    Nat.ofDigitChars_ten_toDigits]

/-- A text of digits carries no sign. -/
theorem integer?_of_digits
    (digits : List Char)
    (allDigits : digits.all Char.isDigit = true) :
    integer? digits = (natural? digits).map fun value => (value : Int) := by
  unfold integer?
  split
  · simp at allDigits
  · simp at allDigits
  · rfl

theorem integer?_signedDecimal (value : Int) :
    integer? (signedDecimal value) = some value := by
  by_cases negative : value < 0
  · rw [signedDecimal, if_pos negative, integer?, natural?_decimal]
    show some (-(value.natAbs : Int)) = some value
    congr 1
    omega
  · rw [signedDecimal, if_neg negative, integer?_of_digits _ (all_isDigit_decimal _),
      natural?_decimal]
    show some (value.natAbs : Int) = some value
    congr 1
    omega

theorem toInt64?_toInt (value : Int64) : toInt64? value.toInt = some value := by
  have aboveLeast := Int64.le_toInt value
  have belowLimit := Int64.toInt_lt value
  rw [toInt64?, if_pos (by omega), Int64.ofInt_toInt]

theorem int64?_signedDecimal (value : Int64) :
    int64? (signedDecimal value.toInt) = some value := by
  rw [int64?, integer?_signedDecimal, Option.bind_some, toInt64?_toInt]

example : int64? "+007".toList = some 7 ∧ int64? "+".toList = none
    ∧ int64? "9223372036854775808".toList = none := by decide

end Fieldwise.Text
