import Fieldwise.Value.Basic

/-!
Contract: the shapes of value that rules ask for.

Owns: the four shapes, what a rule receives of a value of each shape, and which
values have which shape.

Does **not** own: the report on a value of the wrong shape
(`Fieldwise.Rule.Fault`).
-/

set_option autoImplicit false

namespace Fieldwise

/-- What a rule asks of the value it checks. -/
inductive Shape where
  | text
  | integer
  /-- A text, or a list of texts only or of 64-bit integers only. -/
  | sized
  | any
deriving DecidableEq

namespace Shape

/-- The name that reports use for a shape. -/
def label : Shape → String
  | .text => "string"
  | .integer => "integer"
  | .sized => "string or list"
  | .any => "any"

/-- What a rule receives of a value: of a sized one only its size. -/
def Carrier : Shape → Type
  | .text => String
  | .integer => Int64
  | .sized => Nat
  | .any => Value

/-- The size of a value: the code points of a text, the items of a list whose
items are all texts or all 64-bit integers. -/
def sizeOf? : Value → Option Nat
  | .text content => some content.length
  | .list items =>
      if items.all Value.isText || items.all (fun item => item.int64?.isSome) then
        some items.length
      else none
  | _ => none

/-- What a rule that asks for the shape receives of the value, if the value has
that shape. -/
def read? : (shape : Shape) → Value → Option shape.Carrier
  | .text, .text content => some content
  | .text, _ => none
  | .integer, value => value.int64?
  | .sized, value => sizeOf? value
  | .any, value => some value

end Shape

end Fieldwise
