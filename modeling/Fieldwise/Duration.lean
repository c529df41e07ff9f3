import Fieldwise.Text.Numeral

/-!
Contract: spans of time in whole nanoseconds.

Owns: the duration type, its making from milliseconds and from parts, the order
by length, and the text of a duration in descriptions.

Does **not** own: clocks. Nothing here waits.
-/

set_option autoImplicit false

namespace Fieldwise

/-- A span of time: seconds of 64 bits, and nanoseconds below one second. -/
structure Duration where
  seconds : UInt64
  nanos : Fin 1000000000
deriving DecidableEq

namespace Duration

def totalNanos (duration : Duration) : Nat :=
  duration.seconds.toNat * 1000000000 + duration.nanos.val

def ofMillis (millis : UInt64) : Duration :=
  { seconds := millis / 1000
    nanos := Fin.ofNat 1000000000 (millis.toNat % 1000 * 1000000) }

def toMillis (duration : Duration) : Nat :=
  duration.totalNanos / 1000000

/-- The duration of seconds and nanoseconds, where nanoseconds of a second and
more are carried over. There is none where the seconds do not fit. -/
def ofParts? (seconds nanos : Nat) : Option Duration :=
  let total := seconds + nanos / 1000000000
  if total < UInt64.size then
    some
      { seconds := UInt64.ofNat total
        nanos := Fin.ofNat 1000000000 nanos }
  else none

def isZero (duration : Duration) : Bool :=
  duration.totalNanos = 0

/-! ## Text -/

/-- A fraction of `width` decimal places, with its point and without zeros at its
end; nothing where the fraction is zero. -/
def fractionText (width part : Nat) : List Char :=
  match ((Text.padded width part).reverse.dropWhile (· = '0')).reverse with
  | [] => []
  | digits => '.' :: digits

/-- A duration in the largest unit of which it has at least one. -/
def describe (duration : Duration) : String :=
  let nanos := duration.nanos.val
  let (whole, fraction, unit) :=
    if duration.seconds ≠ 0 then
      (duration.seconds.toNat, fractionText 9 nanos, "s")
    else if 1000000 ≤ nanos then
      (nanos / 1000000, fractionText 6 (nanos % 1000000), "ms")
    else if 1000 ≤ nanos then
      (nanos / 1000, fractionText 3 (nanos % 1000), "\u00b5s")
    else (nanos, [], "ns")
  String.ofList (Text.decimal whole ++ fraction) ++ unit

example : (ofMillis 12345).describe = "12.345s" ∧ (ofMillis 200).describe = "200ms"
    ∧ (ofMillis 0).describe = "0ns" := by decide +kernel

end Duration

end Fieldwise
