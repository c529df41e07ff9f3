import Fieldwise.Rule.Kind
import Fieldwise.Text.Blank
import Fieldwise.Text.Numeral

/-!
Contract: comparisons of integers and of sizes.

Owns: the four comparisons with a threshold, the range with two bounds, the size
as an integer of 64 bits, and the three bounds on it.

Does **not** own: how thresholds are read from a rule
(`Fieldwise.Rule.Fault`). Comparisons are those of the integers; nothing wraps.
-/

set_option autoImplicit false

namespace Fieldwise.Check

inductive Comparison where
  | greater
  | less
  | atLeast
  | atMost
deriving DecidableEq

namespace Comparison

def holds : Comparison → (value threshold : Int64) → Bool
  | .greater, value, threshold => threshold.toInt < value.toInt
  | .less, value, threshold => value.toInt < threshold.toInt
  | .atLeast, value, threshold => threshold.toInt ≤ value.toInt
  | .atMost, value, threshold => value.toInt ≤ threshold.toInt

def keyword : Comparison → Keyword
  | .greater => .greater
  | .less => .less
  | .atLeast => .atLeast
  | .atMost => .atMost

end Comparison

/-- The integer that an item of a parameter is, blanks around it aside. -/
def bound? (item : String) : Option Int64 :=
  Text.int64? (Text.trim item.toList)

/-- Does a value lie between two bounds, both included? Items that are not exactly
two integers bound nothing, and no value lies between them. -/
def isBetween (value : Int64) (items : List String) : Bool :=
  match items.map bound? with
  | [some low, some high] => low.toInt ≤ value.toInt && value.toInt ≤ high.toInt
  | _ => false

/-- A size as an integer of 64 bits. One that is too great for 64 bits counts as the
greatest integer of them. -/
def lengthOf (size : Nat) : Int64 :=
  (Text.toInt64? size).getD Int64.maxValue

inductive SizeBound where
  | atMost
  | atLeast
  | exactly
deriving DecidableEq

namespace SizeBound

/-- Does a size keep to a bound? A negative limit is below every size. -/
def holds : SizeBound → (size : Nat) → (limit : Int64) → Bool
  | .atMost, size, limit => (lengthOf size).toInt ≤ limit.toInt
  | .atLeast, size, limit => limit.toInt ≤ (lengthOf size).toInt
  | .exactly, size, limit => (lengthOf size).toInt = limit.toInt

def keyword : SizeBound → Keyword
  | .atMost => .max
  | .atLeast => .min
  | .exactly => .size

end SizeBound

end Fieldwise.Check
