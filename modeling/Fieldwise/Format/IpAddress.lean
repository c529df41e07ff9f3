import Fieldwise.Text.Numeral

/-!
Contract: the literals of internet addresses.

Owns: dotted addresses of four numbers, and addresses of eight groups of
hexadecimal digits with one run of zero groups left out.

Does **not** own: brackets, ports, zones or lengths around an address. None of
them belongs to a literal.
-/

set_option autoImplicit false

namespace Fieldwise.Format

/-! ## Dotted addresses -/

/-- A decimal number up to 255, without leading zeros. -/
def isOctet (chars : List Char) : Bool :=
  chars ≠ [] && chars.all Char.isDigit
    && (chars.length = 1 || chars.head? ≠ some '0')
    && Nat.ofDigitChars 10 chars 0 ≤ 255

/-- Four numbers between dots. -/
def isDotted (chars : List Char) : Bool :=
  let parts := chars.splitOn '.'
  parts.length = 4 && parts.all isOctet

/-! ## Grouped addresses -/

/-- One to four hexadecimal digits. -/
def isGroup (chars : List Char) : Bool :=
  1 ≤ chars.length && chars.length ≤ 4 && chars.all Text.isHexDigit

/-- The number of groups that parts stand for, if each part is a group. -/
def groupCount? (parts : List (List Char)) : Option Nat :=
  if parts.all isGroup then some parts.length else none

/-- The number of groups that parts stand for when the last of them may be a
dotted address, which stands for two groups. -/
def mixedCount? : List (List Char) → Option Nat
  | [] => some 0
  | [last] => if isGroup last then some 1 else if isDotted last then some 2 else none
  | part :: next :: more =>
      if isGroup part then (mixedCount? (next :: more)).map (· + 1) else none

/-- The text before the first double colon and the text after it. -/
def splitGap? : List Char → Option (List Char × List Char)
  | ':' :: ':' :: rest => some ([], rest)
  | char :: rest => (splitGap? rest).map fun sides => (char :: sides.1, sides.2)
  | [] => none

/-- The parts between colons; an empty text has none. -/
def colonParts (chars : List Char) : List (List Char) :=
  if chars = [] then [] else chars.splitOn ':'

/-- Eight groups between colons, or fewer around one double colon, which stands
for at least one group of zeros. The last two groups may be a dotted address. -/
def isGrouped (chars : List Char) : Bool :=
  match splitGap? chars with
  | none => mixedCount? (colonParts chars) = some 8
  | some (front, back) =>
      match groupCount? (colonParts front), mixedCount? (colonParts back) with
      | some before, some after => before + after ≤ 7
      | _, _ => false

def isIpAddress (chars : List Char) : Bool :=
  isDotted chars || isGrouped chars

example : isIpAddress "::".toList = true ∧ isIpAddress "1::2:3:4:5:6:7".toList = true
    ∧ isIpAddress "1:2:3:4:5:6:7::".toList = true ∧ isIpAddress "::1:2:3:4:5:1.2.3.4".toList = true
    ∧ isIpAddress "1:::2".toList = false ∧ isIpAddress "1.2.3.04".toList = false := by decide

end Fieldwise.Format
