import Fieldwise.Report.Basic
import Fieldwise.Value.Members

/-!
Contract: errors and reports as values, and back.

Owns: the value of an error and of a report, the envelope for clients, and the
reading of errors and reports from values.

Does **not** own: the text of a value (`Fieldwise.Value.Printer`).

Reading allows more than writing produces: entries of other names are passed
over, a context may be missing, and a list may give the members by position.
-/

set_option autoImplicit false

namespace Fieldwise

namespace FieldError

/-- The member names of an error. -/
def memberNames : List String := ["field", "message", "code", "context"]

/-- An error as a value. No context and a null context look the same. -/
def toValue (error : FieldError) : Value :=
  Value.ofEntries
    [("field", .text error.field), ("message", .text error.message),
      ("code", .text error.code), ("context", .ofOption error.context)]

/-- The context that a member gives: a missing or a null one is none. -/
def readContext : Option Value → Option Value
  | none | some .null => none
  | some context => some context

def ofValue? (value : Value) : Option FieldError :=
  match value.members? memberNames with
  | some [some (.text field), some (.text message), some (.text code), context] =>
      some { field, message, code, context := readContext context }
  | _ => none

end FieldError

namespace Report

def toValue (report : Report) : Value :=
  Value.ofEntries [("errors", .list (report.errors.map FieldError.toValue))]

/-- A report as clients receive it. -/
def envelope (report : Report) : Value :=
  Value.ofEntries
    [("error", Value.ofEntries
      [("code", .text "validation_failed"), ("message", .text "Validation failed"),
        ("fields", .list (report.errors.map FieldError.toValue))])]

def ofValue? (value : Value) : Option Report :=
  match value.members? ["errors"] with
  | some [some (.list items)] => (Value.readAll FieldError.ofValue? items).map Report.mk
  | _ => none

end Report

end Fieldwise
