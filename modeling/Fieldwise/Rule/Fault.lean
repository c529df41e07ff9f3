import Fieldwise.Rule.Basic
import Fieldwise.Value.Shape

/-!
Contract: the reasons why a rule could not be evaluated.

Owns: the faults with their texts and codes, and the demands on values and
parameters that raise them.

Does **not** own: the failure of a rule that was evaluated
(`Fieldwise.Report.Message`).
-/

set_option autoImplicit false

namespace Fieldwise

/-- Why a rule could not be evaluated on a value. -/
inductive Fault where
  /-- The value has not the shape that the rule asks for. -/
  | coercion (expected : Shape) (found : String)
  /-- The rule needs a parameter and has none. -/
  | missingParameter (kind : Kind)
  /-- The rule's parameter is of no use to it. -/
  | invalidParameter (kind : Kind) (parameter : Parameter) (expected : String)
  /-- No predicate is registered for the rule's kind. -/
  | unknownRule (rule : String)
deriving DecidableEq

namespace Fault

def message : Fault → String
  | .coercion expected found =>
      "expected a " ++ expected.label ++ " value, found " ++ found
  | .missingParameter kind =>
      "rule '" ++ kind.name ++ "' requires a parameter"
  | .invalidParameter kind parameter expected =>
      "rule '" ++ kind.name ++ "' has an invalid parameter '" ++ parameter.toText
        ++ "', expected " ++ expected
  | .unknownRule rule =>
      "no predicate is registered for rule '" ++ rule ++ "'"

def code : Fault → String
  | .coercion _ _ => "invalid_type"
  | .missingParameter _ | .invalidParameter _ _ _ => "invalid_rule"
  | .unknownRule _ => "unknown_rule"

/-- Does the fault lie in the rule and not in the value? -/
def isConfiguration : Fault → Bool
  | .coercion _ _ => false
  | _ => true

def describe (field : String) : Fault → String
  | .coercion expected found =>
      "The " ++ field ++ " field must be a " ++ expected.label ++ " value, found " ++ found
  | fault => "The " ++ field ++ " field cannot be validated: " ++ fault.message

end Fault

/-- What a rule that asks for the shape receives of the value, or the fault that
the value has another type. -/
def Shape.demand (shape : Shape) (value : Value) : Except Fault shape.Carrier :=
  match shape.read? value with
  | some carried => .ok carried
  | none => .error (.coercion shape value.typeName)

namespace Parameter

/-- The integer that a rule of the kind needs as its parameter. -/
def demandInteger (kind : Kind) : Option Parameter → Except Fault Int64
  | none => .error (.missingParameter kind)
  | some parameter =>
      match parameter.integer? with
      | some number => .ok number
      | none => .error (.invalidParameter kind parameter "an integer")

/-- The text that a rule of the kind needs as its parameter: any parameter but a
list has one. -/
def demandText (kind : Kind) : Option Parameter → Except Fault String
  | none => .error (.missingParameter kind)
  | some (.list items) => .error (.invalidParameter kind (.list items) "a single value")
  | some scalar => .ok scalar.toText

/-- The items that a rule of the kind needs as its parameter: every parameter
has some. -/
def demandItems (kind : Kind) : Option Parameter → Except Fault (List String)
  | none => .error (.missingParameter kind)
  | some parameter => .ok parameter.items

end Parameter

end Fieldwise
