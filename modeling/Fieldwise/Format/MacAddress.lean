import Fieldwise.Text.Numeral

/-!
Contract: hardware addresses of six bytes.

Owns: the bytes of a text of six pairs of hexadecimal digits, each two pairs
separated by a colon or a hyphen.

Does **not** own: any other notation of hardware addresses.
-/

set_option autoImplicit false

namespace Fieldwise.Format

def isPairSeparator (char : Char) : Bool :=
  char = ':' || char = '-'

/-- The bytes of a text of `separators + 1` pairs of hexadecimal digits. The
separators need not be alike. -/
def pairs? : (separators : Nat) → List Char → Option (List Nat)
  | 0, [high, low] =>
      if Text.isHexDigit high && Text.isHexDigit low then
        some [Text.hexNumber [high, low]]
      else none
  | separators + 1, high :: low :: separator :: rest =>
      if Text.isHexDigit high && Text.isHexDigit low && isPairSeparator separator then
        (pairs? separators rest).map (Text.hexNumber [high, low] :: ·)
      else none
  | _, _ => none

/-- The six bytes of a hardware address. -/
def macBytes? (chars : List Char) : Option (List Nat) :=
  pairs? 5 chars

def isMacAddress (chars : List Char) : Bool :=
  (macBytes? chars).isSome

example : macBytes? "00:A0-cc:23:39:3F".toList = some [0, 160, 204, 35, 57, 63]
    ∧ macBytes? "00:A0:CC:23:39:3F:".toList = none := by decide

end Fieldwise.Format
