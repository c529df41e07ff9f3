import Fieldwise.Record.Basic
import Fieldwise.Text.Quoted
import Fieldwise.Value.Typed

/-!
Contract: typed records.

Owns: schemas, which declare the fields of a record type with their rules, and
the source that a schema and a record make.

Does **not** own: rules registered elsewhere. A schema is complete by itself.
-/

set_option autoImplicit false

namespace Fieldwise

/-- One declared field of a record type: its name, its rules, and its value on a
record. -/
structure SchemaField (Record : Type) where
  name : String
  spec : String
  read : Record → Typed

/-- The declared fields of a record type, in order. Names may repeat. -/
structure Schema (Record : Type) where
  fields : List (SchemaField Record)

namespace Schema

variable {Record : Type}

def empty : Schema Record := ⟨[]⟩

def field
    (schema : Schema Record)
    (name spec : String)
    (read : Record → Typed) :
    Schema Record :=
  ⟨schema.fields ++ [⟨name, spec, read⟩]⟩

def names (schema : Schema Record) : List String :=
  schema.fields.map SchemaField.name

def size (schema : Schema Record) : Nat :=
  schema.fields.length

def isEmpty (schema : Schema Record) : Bool :=
  schema.fields.isEmpty

def valueOf (record : Record) (field : SchemaField Record) : Value :=
  (field.read record).toValue

/-- The record as a source: the declared fields in order. Of fields with one name
the first is the one that lookup finds. -/
def bind (schema : Schema Record) (record : Record) : FieldSource :=
  { fields := schema.fields.map fun field =>
      { name := field.name
        value := valueOf record field
        rules := .declared field.spec }
    lookup := fun name =>
      (schema.fields.find? fun field => field.name = name).map (valueOf record) }

/-- The summary of a schema: pairs of name and specification. -/
def describe (schema : Schema Record) : String :=
  Text.bracketed <| schema.fields.map fun field =>
    "(" ++ Text.quoted field.name ++ ", " ++ Text.quoted field.spec ++ ")"

end Schema

end Fieldwise
