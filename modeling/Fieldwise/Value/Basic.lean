import Fieldwise.Decimal.Binary64
import Fieldwise.Text.Numeral

/-!
Contract: the values that fields hold.

Owns: the value type, objects with sorted keys, the name of a value's type, the
64-bit integer of a value, and equality of values.

Does **not** own: the text of a value (`Fieldwise.Value.Printer`) and the shapes
that rules ask for (`Fieldwise.Value.Shape`).
-/

set_option autoImplicit false

namespace Fieldwise

open Decimal (Binary64)

/-- A dynamic value. Integers are signed or unsigned integers of 64 bits; every
other number is a finite floating-point number. The entries of an object stand
in strictly ascending order of their keys, so that an object has one form:
`Value.ofEntries` builds that form. `Value.WellFormed` says all this of a value. -/
inductive Value where
  | null
  | boolean (truth : Bool)
  | integer (number : Int)
  | float (number : Binary64)
  | text (content : String)
  | list (items : List Value)
  | object (entries : List (String × Value))
deriving Inhabited

namespace Value

/-! ## Objects -/

/-- Put a value under a key into entries of ascending keys, in place of the
value the key had. Keys are ordered by code point. -/
def insertEntry (key : String) (value : Value) :
    List (String × Value) → List (String × Value)
  | [] => [(key, value)]
  | (other, held) :: rest =>
      if key = other then (key, value) :: rest
      else if key < other then (key, value) :: (other, held) :: rest
      else (other, held) :: insertEntry key value rest

/-- The object of some entries. Of two entries with one key the later counts. -/
def ofEntries (entries : List (String × Value)) : Value :=
  .object (entries.foldl (fun sorted entry => insertEntry entry.1 entry.2 sorted) [])

/-- The value under a key of an object; other values have no entries. -/
def entry? (key : String) : Value → Option Value
  | .object entries => entries.lookup key
  | _ => none

def ofOption : Option Value → Value
  | none => .null
  | some value => value

def ofTexts (texts : List String) : Value :=
  .list (texts.map .text)

/-! ## Views -/

def isNull : Value → Bool
  | .null => true
  | _ => false

/-- The 64-bit signed integer of a value. A floating-point number has none, even
an integral one, and neither has an integer out of range. -/
def int64? : Value → Option Int64
  | .integer number => Text.toInt64? number
  | _ => none

def isText : Value → Bool
  | .text _ => true
  | _ => false

/-- The name that reports use for the type of a value. -/
def typeName : Value → String
  | .null => "null"
  | .boolean _ => "boolean"
  | .integer _ => "integer"
  | .float _ => "float"
  | .text _ => "string"
  | .list _ => "list"
  | .object _ => "object"

/-! ## Equality -/

mutual

/-- Equality of values. An integer never equals a floating-point number,
floating-point numbers are equal as numbers, the order of a list counts, and the
order in which an object was written does not: its entries have one order. -/
def same : Value → Value → Bool
  | .null, .null => true
  | .boolean left, .boolean right => left = right
  | .integer left, .integer right => left = right
  | .float left, .float right => left.sameNumber right
  | .text left, .text right => left = right
  | .list left, .list right => sameItems left right
  | .object left, .object right => sameEntries left right
  | _, _ => false

/-- Lists with equal items in equal places. -/
def sameItems : List Value → List Value → Bool
  | [], [] => true
  | left :: lefts, right :: rights => same left right && sameItems lefts rights
  | _, _ => false

/-- Entries of equal keys and equal values in equal places. -/
def sameEntries : List (String × Value) → List (String × Value) → Bool
  | [], [] => true
  | (leftKey, left) :: lefts, (rightKey, right) :: rights =>
      leftKey = rightKey && same left right && sameEntries lefts rights
  | _, _ => false

end

mutual

theorem same_self : (value : Value) → value.same value = true
  | .null => by simp [same]
  | .boolean _ => by simp [same]
  | .integer _ => by simp [same]
  | .float number => by simp [same, number.sameNumber_self]
  | .text _ => by simp [same]
  | .list items => by simp [same, sameItems_self items]
  | .object entries => by simp [same, sameEntries_self entries]

theorem sameItems_self : (items : List Value) → sameItems items items = true
  | [] => by simp [sameItems]
  | item :: items => by simp [sameItems, same_self item, sameItems_self items]

theorem sameEntries_self : (entries : List (String × Value)) → sameEntries entries entries = true
  | [] => by simp [sameEntries]
  | (_, value) :: entries => by
      simp [sameEntries, same_self value, sameEntries_self entries]

end

end Value

end Fieldwise
