import Fieldwise.Rule.Kind
import Fieldwise.Text.Numeral
import Fieldwise.Value.Basic

/-!
Contract: the parameter of a rule, the text after its colon.

Owns: the three sorts of parameter, reading one as its kind asks, its text, its
items, and its value in reports.

Does **not** own: which parameters a check accepts (`Fieldwise.Rule.Fault`).
-/

set_option autoImplicit false

namespace Fieldwise

inductive Parameter where
  | integer (number : Int64)
  | text (content : String)
  | list (items : List String)
deriving DecidableEq

namespace Parameter

/-- Read the text after the colon in the form of the rule's kind. Nothing is
trimmed, so a list always has an item, perhaps an empty one. -/
def parse (form : ParameterForm) (raw : List Char) : Parameter :=
  match form with
  | .list => .list ((raw.splitOn ',').map String.ofList)
  | .literal => .text (String.ofList raw)
  | .scalar =>
      match Text.int64? raw with
      | some number => .integer number
      | none => .text (String.ofList raw)

/-- The text of a parameter: the canonical numeral, the text, or the items
between commas. -/
def chars : Parameter → List Char
  | .integer number => Text.signedDecimal number.toInt
  | .text content => content.toList
  | .list items => [','].intercalate (items.map String.toList)

def toText (parameter : Parameter) : String :=
  String.ofList parameter.chars

/-- The items of a parameter. A scalar counts as a list of one item. -/
def items : Parameter → List String
  | .list items => items
  | scalar => [scalar.toText]

def integer? : Parameter → Option Int64
  | .integer number => some number
  | _ => none

/-- The parameter as a value in the context of a report. -/
def toValue : Parameter → Value
  | .integer number => .integer number.toInt
  | .text content => .text content
  | .list items => Value.ofTexts items

theorem parse_scalar_chars_integer (number : Int64) :
    parse .scalar (chars (.integer number)) = .integer number := by
  simp [parse, chars, Text.int64?_signedDecimal]

end Parameter

end Fieldwise
