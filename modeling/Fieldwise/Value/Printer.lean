import Fieldwise.Decimal.Shortest
import Fieldwise.Value.Basic

/-!
Contract: the compact text of a value.

Owns: the spelling of every kind of value, the escapes inside strings, and the
layout of floating-point numbers.

Does **not** own: the choice of a number's digits
(`Fieldwise.Decimal.Shortest`).
-/

set_option autoImplicit false

namespace Fieldwise

open Decimal (Binary64 Scientific)

/-! ## Numbers -/

namespace Decimal

/-- How the digits of a floating-point number are laid out. The position of a
number is the place of its decimal point, counted from its first digit: it is
written without exponent when `leastPosition < position ≤ greatestPosition`. -/
structure NumberLayout where
  leastPosition : Int
  greatestPosition : Int
  /-- Is the sign of an exponent that is not negative written? -/
  exponentPlus : Bool

/-- The layout of a positive or zero number. Without exponent there is always a
digit on both sides of the point; with one, there is a single digit before the
point and none after it where no more are needed, and the exponent has no
leading zeros. -/
def Scientific.layOut (layout : NumberLayout) (number : Scientific) : List Char :=
  let digits := Text.decimal number.coefficient
  let position := number.exponent + digits.length
  if layout.leastPosition < position ∧ position ≤ layout.greatestPosition then
    if 0 ≤ number.exponent then
      digits ++ List.replicate number.exponent.toNat '0' ++ ['.', '0']
    else if 0 < position then
      digits.take position.toNat ++ '.' :: digits.drop position.toNat
    else ['0', '.'] ++ List.replicate (-position).toNat '0' ++ digits
  else
    let power := position - 1
    let mantissa := match digits with
      | lead :: [] => [lead]
      | lead :: more => lead :: '.' :: more
      | [] => []
    let sign := if power < 0 then ['-'] else if layout.exponentPlus then ['+'] else []
    mantissa ++ 'e' :: sign ++ Text.decimal power.natAbs

end Decimal

namespace Value

/-- Numbers from `0.00001` up to, but not including, `10 ^ 16` are written
without exponent; an exponent always has a sign. -/
def numberLayout : Decimal.NumberLayout :=
  { leastPosition := -5
    greatestPosition := 16
    exponentPlus := true }

/-- The text of a floating-point number: the fewest digits that read back. -/
def floatText (number : Binary64) : List Char :=
  (if number.isNegative then ['-'] else []) ++ number.shortest.layOut numberLayout

/-! ## Strings -/

/-- One character inside a quoted string. Controls are escaped, by name where
they have one; DEL and everything outside ASCII stand as they are. -/
def stringChar (char : Char) : List Char :=
  if char = '"' then ['\\', '"']
  else if char = '\\' then ['\\', '\\']
  else if char = '\x08' then ['\\', 'b']
  else if char = '\x0c' then ['\\', 'f']
  else if char = '\n' then ['\\', 'n']
  else if char = '\r' then ['\\', 'r']
  else if char = '\t' then ['\\', 't']
  else if char.toNat < 32 then
    ['\\', 'u', '0', '0']
      ++ [Nat.digitChar (char.toNat / 16), Nat.digitChar (char.toNat % 16)]
  else [char]

/-- A string between double quotes. -/
def stringText (content : String) : List Char :=
  '"' :: content.toList.flatMap stringChar ++ ['"']

/-! ## Values -/

mutual

/-- The compact text of a value: no blanks between its parts, the entries of an
object in the order of their keys. -/
def compact : Value → List Char
  | .null => "null".toList
  | .boolean true => "true".toList
  | .boolean false => "false".toList
  | .integer number => Text.signedDecimal number
  | .float number => floatText number
  | .text content => stringText content
  | .list [] => ['[', ']']
  | .list (item :: items) => '[' :: compact item ++ moreItems items
  | .object [] => ['\x7b', '\x7d']
  | .object ((key, value) :: entries) =>
      '\x7b' :: stringText key ++ ':' :: compact value ++ moreEntries entries

/-- The items after the first one, up to the closing bracket. -/
def moreItems : List Value → List Char
  | [] => [']']
  | item :: items => ',' :: compact item ++ moreItems items

/-- The entries after the first one, up to the closing brace. -/
def moreEntries : List (String × Value) → List Char
  | [] => ['\x7d']
  | (key, value) :: entries =>
      ',' :: stringText key ++ ':' :: compact value ++ moreEntries entries

end

def toText (value : Value) : String :=
  String.ofList value.compact

/-- A value as messages show it: a text stands for itself, without quotes. -/
def shown : Value → String
  | .text content => content
  | value => value.toText

end Value

end Fieldwise
