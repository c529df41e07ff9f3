import Fieldwise.Config.Basic
import Fieldwise.Predicate.Catalogue
import Fieldwise.Record.Dynamic
import Fieldwise.Record.Schema
import Fieldwise.Rule.Book

/-!
Contract: validators, and what they report on a record.

Owns: the error of one rule, the loop over the rules of a field and over the
fields of a record of any sort, the registrations that extend a validator, and its
summary.

Does **not** own: the making of validators (`Fieldwise.Validator.Builder`).

The companion is read once, before any rule runs. Every rule of every field runs,
and the report only grows.
-/

set_option autoImplicit false

namespace Fieldwise

namespace Catalogue

/-- The error that a rule leads to on a value, if any. A kind without predicate is
a fault, for null too. -/
def error?
    (catalogue : Catalogue)
    (rule : Rule)
    (value : Value)
    (context : RuleContext) :
    Option FieldError :=
  match catalogue.get? rule.kind with
  | none => some (FieldError.ofFault context.field rule (.unknownRule rule.kind.name))
  | some predicate => predicate.error? rule value context

/-- Evaluate one rule of a field. The error it leads to, if any, is added to what
was reported before. -/
def evaluate
    (catalogue : Catalogue)
    (companion : Companion)
    (field : PreparedField)
    (report : Report)
    (rule : Rule) :
    Report :=
  match catalogue.error? rule field.value { field := field.name, companion } with
  | none => report
  | some error => report.add error

def evaluateField
    (catalogue : Catalogue)
    (companion : Companion)
    (report : Report)
    (field : PreparedField) :
    Report :=
  field.rules.foldl (catalogue.evaluate companion field) report

end Catalogue

/-- A validator: its settings, the predicate behind each kind of rule, and the
rules for the fields of dynamic records. -/
structure Validator where
  config : Config
  catalogue : Catalogue
  rules : RuleBook

namespace Validator

/-! ## Reports -/

/-- The report on a record: every rule of every field, evaluated in order. -/
def validate (validator : Validator) (source : FieldSource) : Report :=
  let companion := source.companion validator.config.confirmationField
  source.prepared.foldl (validator.catalogue.evaluateField companion) Report.empty

def validateSchema
    {Record : Type}
    (validator : Validator)
    (schema : Schema Record)
    (record : Record) :
    Report :=
  validator.validate (schema.bind record)

def validateDynamic (validator : Validator) (record : DynamicRecord) : Report :=
  validator.validate (record.bind validator.rules.entries)

/-! ## Registrations -/

def register (validator : Validator) (registration : Registration) : Validator :=
  { validator with rules := validator.rules.register registration }

/-- Put a predicate behind a kind of rule. -/
def registerPredicate
    (validator : Validator)
    (kind : Kind)
    (predicate : Predicate) :
    Validator :=
  { validator with catalogue := validator.catalogue.register kind predicate }

/-! ## Text -/

def describe (validator : Validator) : String :=
  Text.recordText "Validator"
    [("config", validator.config.describe),
      ("predicates", validator.catalogue.describe),
      ("rules", validator.rules.describe)]

end Validator

end Fieldwise
