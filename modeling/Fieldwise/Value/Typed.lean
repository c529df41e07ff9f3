import Fieldwise.Value.Basic

/-!
Contract: the values of typed fields, and the dynamic value of each.

Owns: the types a field of a typed record can have, and `Typed.toValue`.

Does **not** own: records and their schemas (`Fieldwise.Record.Schema`).
-/

set_option autoImplicit false

namespace Fieldwise

open Decimal (Binary64)

/-- The integer types of fields. A machine-sized integer has 64 bits. -/
inductive IntegerType where
  | int8
  | int16
  | int32
  | int64
  | nat8
  | nat16
  | nat32
  | nat64
  | natSize
deriving DecidableEq

namespace IntegerType

def least : IntegerType → Int
  | .int8 => -128
  | .int16 => -32768
  | .int32 => -2147483648
  | .int64 => -9223372036854775808
  | .nat8 | .nat16 | .nat32 | .nat64 | .natSize => 0

def greatest : IntegerType → Int
  | .int8 => 127
  | .int16 => 32767
  | .int32 => 2147483647
  | .int64 => 9223372036854775807
  | .nat8 => 255
  | .nat16 => 65535
  | .nat32 => 4294967295
  | .nat64 | .natSize => 18446744073709551615

end IntegerType

inductive Typed where
  | text (content : String)
  | integer
      (type : IntegerType)
      (number : Int)
      (inRange : type.least ≤ number ∧ number ≤ type.greatest)
  /-- Any floating-point number, finite or not. -/
  | float (number : Binary64)
  | boolean (truth : Bool)
  /-- A field that holds a dynamic value already. -/
  | dynamic (value : Value)
  | option (inner : Option Typed)
  | list (items : List Typed)

namespace Typed

mutual

/-- The dynamic value of a typed field. An empty option is null, and so is a
floating-point number that is not finite; a full option is what it holds. -/
def toValue : Typed → Value
  | .text content => .text content
  | .integer _ number _ => .integer number
  | .float number => if number.isFinite then .float number else .null
  | .boolean truth => .boolean truth
  | .dynamic value => value
  | .option none => .null
  | .option (some inner) => inner.toValue
  | .list items => .list (toValues items)

def toValues : List Typed → List Value
  | [] => []
  | item :: items => item.toValue :: toValues items

end

theorem toValues_eq_map (items : List Typed) : toValues items = items.map toValue := by
  induction items with
  | nil => rfl
  | cons item items inductionHypothesis => simp [toValues, inductionHypothesis]

end Typed

end Fieldwise
