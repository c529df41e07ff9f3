import Fieldwise.Report.Message
import Fieldwise.Rule.Fault
import Fieldwise.Text.Order

/-!
Contract: the errors of fields, and reports, their ordered collections.

Owns: the error type and the three ways in which rules lead to an error, the
report type with its views by field, and the texts of both.

Does **not** own: their form as values (`Fieldwise.Report.Codec`).
-/

set_option autoImplicit false

namespace Fieldwise

/-- One error of one field. The context is a further value for programs; a null
context is still a context. -/
structure FieldError where
  field : String
  message : String
  code : String
  context : Option Value

namespace FieldError

/-- An error of the general code, without context. -/
def general (field message : String) : FieldError :=
  { field, message, code := "validation_failed", context := none }

/-- An error of a given code, without context. -/
def withCode (field message code : String) : FieldError :=
  { field, message, code, context := none }

/-- The context of an error that a rule with a parameter led to. -/
def parameterContext (rule : Rule) : Option Value :=
  rule.parameter.map fun parameter =>
    Value.ofEntries
      [("rule", .text rule.kind.name), ("parameter", parameter.toValue)]

def ruleFailed (field : String) (rule : Rule) (value : Value) : FieldError :=
  { field
    message := Report.failureMessage field rule value
    code := rule.kind.name
    context := parameterContext rule }

/-- The error of a field for which a rule could not be evaluated. -/
def ofFault (field : String) (rule : Rule) (fault : Fault) : FieldError :=
  { field
    message := fault.describe field
    code := fault.code
    context := parameterContext rule }

/-- The error of a field that asks for a companion where there is none. -/
def confirmationMissing (field companion : String) : FieldError :=
  { field
    message := "The " ++ field ++ " field requires a confirmation field"
    code := "confirmation_missing"
    context := some (Value.ofEntries [("companion", .text companion)]) }

def toText (error : FieldError) : String :=
  error.field ++ ": " ++ error.message

end FieldError

/-- The errors of a validation, in the order in which they arose. -/
@[ext]
structure Report where
  errors : List FieldError

namespace Report

def empty : Report := ⟨[]⟩

instance : Inhabited Report := ⟨empty⟩

def ofError (error : FieldError) : Report := ⟨[error]⟩

def add (report : Report) (error : FieldError) : Report :=
  ⟨report.errors ++ [error]⟩

/-- Add an error of the general code. -/
def addGeneral (report : Report) (field message : String) : Report :=
  report.add (FieldError.general field message)

/-- The errors of one report, then those of another. -/
def merge (first second : Report) : Report :=
  ⟨first.errors ++ second.errors⟩

def isEmpty (report : Report) : Bool :=
  report.errors.isEmpty

def size (report : Report) : Nat :=
  report.errors.length

def ofField (report : Report) (field : String) : List FieldError :=
  report.errors.filter fun error => error.field = field

def hasField (report : Report) (field : String) : Bool :=
  report.errors.any fun error => error.field = field

/-- The fields with errors, each once, in ascending order. -/
def fields (report : Report) : List String :=
  (Text.ascending (report.errors.map FieldError.field)).eraseReps

def fieldCount (report : Report) : Nat :=
  report.fields.length

/-- Success without errors, else the report itself as the failure. -/
def toResult (report : Report) : Except Report Unit :=
  if report.isEmpty then .ok () else .error report

/-- The errors with those of one field together, fields in ascending order, and
the order within each field kept. -/
def sortedByField (report : Report) : Report :=
  ⟨report.errors.mergeSort fun left right => left.field ≤ right.field⟩

/-- The text of a report: a heading, then a line for each error. -/
def toText (report : Report) : String :=
  if report.isEmpty then "No validation errors"
  else
    "Validation failed for " ++ toString report.fieldCount ++ " field(s):"
      ++ String.join (report.errors.map fun error => "\n  " ++ error.toText)

/-! ## Views of a merge -/

theorem ofField_merge (first second : Report) (field : String) :
    (first.merge second).ofField field = first.ofField field ++ second.ofField field :=
  List.filter_append ..

end Report

end Fieldwise
