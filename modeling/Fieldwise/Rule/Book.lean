import Fieldwise.Rule.Basic
import Fieldwise.Table
import Fieldwise.Text.Order
import Fieldwise.Text.Quoted

/-!
Contract: the rules registered for the fields of dynamic records.

Owns: the rule book, the registrations that extend it, and its summaries.

Does **not** own: the rules of typed records, which their schema declares
(`Fieldwise.Record.Schema`).

A registration appends to what its field has; nothing is ever replaced.
-/

set_option autoImplicit false

namespace Fieldwise

abbrev RuleBook := Table String (List Rule)

inductive Registration where
  /-- One rule. -/
  | single (field : String) (rule : Rule)
  /-- Every rule of a specification, perhaps none. -/
  | batch (field : String) (spec : String)

namespace Registration

def field : Registration → String
  | .single field _ => field
  | .batch field _ => field

def rules : Registration → List Rule
  | .single _ rule => [rule]
  | .batch _ spec => Rule.parseSpec spec.toList

end Registration

namespace RuleBook

/-- Append rules to those of a field. The field is then present in the book, even
without any rule. -/
def append (book : RuleBook) (field : String) (rules : List Rule) : RuleBook :=
  book.alter field fun present => present.getD [] ++ rules

def register (book : RuleBook) (registration : Registration) : RuleBook :=
  book.append registration.field registration.rules

def registerAll (book : RuleBook) (registrations : List Registration) : RuleBook :=
  registrations.foldl register book

/-- Is no field present? -/
def isEmpty (book : RuleBook) : Bool :=
  book.entries.isEmpty

def fields (book : RuleBook) : List String :=
  Text.ascending book.keys

/-- The summary of a book: how many fields are present, and which. -/
def describe (book : RuleBook) : String :=
  Text.recordText "RuleRegistry"
    [("field_rules_count", toString book.size),
      ("validated_fields", Text.quotedList book.fields)]

/-- A registration extends the rules of its own field and of no other. -/
theorem get?_register (book : RuleBook) (registration : Registration) (field : String) :
    (book.register registration).get? field =
      if field = registration.field then
        some ((book.get? registration.field).getD [] ++ registration.rules)
      else book.get? field :=
  Table.get?_alter book registration.field field _

end RuleBook

end Fieldwise
