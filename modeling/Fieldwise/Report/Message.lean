import Fieldwise.Rule.Basic
import Fieldwise.Value.Printer

/-!
Contract: the texts that tell a user which rule a field failed.

Owns: one sentence for each kind of rule.

Does **not** own: the texts of faults (`Fieldwise.Rule.Fault`).
-/

set_option autoImplicit false

namespace Fieldwise.Report

/-- The bounds of a range rule as its message shows them: the two items, or the
whole parameter where there are not two. -/
def rangeText (rule : Rule) : String :=
  match rule.parameter.map Parameter.items with
  | some [low, high] => low ++ " and " ++ high
  | _ => rule.parameterText

/-- The sentence for a field that failed a rule of a built-in kind. -/
def keywordMessage
    (field : String)
    (keyword : Keyword)
    (rule : Rule)
    (value : Value) :
    String :=
  let parameter := rule.parameterText
  let subject := "The " ++ field ++ " field "
  match keyword with
  | .required => subject ++ "is required"
  | .max => "Field " ++ field ++ " exceeds the maximum length of " ++ parameter
  | .min => "Field " ++ field ++ " is less than the minimum length of " ++ parameter
  | .email => "Input field " ++ field ++ " must be a valid email format"
  | .url => subject ++ "must be a valid URL"
  | .activeUrl => subject ++ "must be an active URL"
  | .ipFormat => subject ++ "must be a valid IP address"
  | .date => subject ++ "is not a valid date"
  | .dateFormat => subject ++ "does not match the date format " ++ parameter
  | .between => subject ++ "must be between " ++ rangeText rule
  | .oneOf =>
      "Value '" ++ value.shown ++ "' is not allowed for " ++ field
        ++ ". Allowed values are: " ++ parameter
  | .noneOf =>
      "Value '" ++ value.shown ++ "' is not allowed for " ++ field
        ++ ". Must not be one of: " ++ parameter
  | .accepted => subject ++ "must be accepted"
  | .size => subject ++ "must have a size of exactly " ++ parameter
  | .confirmed => subject ++ "does not match its confirmation"
  | .doesntEndWith => subject ++ "must not end with '" ++ parameter ++ "'"
  | .doesntStartWith => subject ++ "must not start with '" ++ parameter ++ "'"
  | .macAddress => subject ++ "must be a valid MAC address"
  | .greater => subject ++ "must be greater than " ++ parameter
  | .less => subject ++ "must be less than " ++ parameter
  | .atLeast => subject ++ "must be greater than or equal to " ++ parameter
  | .atMost => subject ++ "must be less than or equal to " ++ parameter

def failureMessage (field : String) (rule : Rule) (value : Value) : String :=
  match rule.kind with
  | .builtIn keyword => keywordMessage field keyword rule value
  | .other name => "The " ++ field ++ " field failed the '" ++ name ++ "' rule"

end Fieldwise.Report
