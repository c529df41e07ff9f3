import Fieldwise.Record.Basic
import Fieldwise.Table

/-!
Contract: dynamic records, maps from names to values.

Owns: the source that a map and the rules for its fields make.

Does **not** own: the registration of those rules (`Fieldwise.Rule.Book`).
-/

set_option autoImplicit false

namespace Fieldwise

/-- A dynamic record: its values by name. -/
abbrev DynamicRecord := Table String Value

namespace DynamicRecord

/-- The record as a source, with the rules of its fields in some order. Every
field with rules is visited, with null where the record has no value for it;
fields without rules are not visited, but lookup finds them. -/
def bind (record : DynamicRecord) (rules : List (String × List Rule)) : FieldSource :=
  { fields := rules.map fun entry =>
      { name := entry.1
        value := (record.get? entry.1).getD .null
        rules := .registered entry.2 }
    lookup := record.get? }

end DynamicRecord

end Fieldwise
