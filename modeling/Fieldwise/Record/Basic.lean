import Fieldwise.Rule.Basic
import Fieldwise.Value.Basic

/-!
Contract: records as validation sees them.

Owns: where the rules of a field come from, fields with their values, sources of
fields, and their preparation for evaluation.

Does **not** own: typed records (`Fieldwise.Record.Schema`) and dynamic records
(`Fieldwise.Record.Dynamic`), the two ways to a source.
-/

set_option autoImplicit false

namespace Fieldwise

/-- Where the rules of a field come from. -/
inductive RuleSource where
  /-- A specification, read when the field is validated. -/
  | declared (spec : String)
  /-- Rules that were registered. -/
  | registered (rules : List Rule)

namespace RuleSource

def rules : RuleSource → List Rule
  | .declared spec => Rule.parseSpec spec.toList
  | .registered rules => rules

/-- Is there nothing to read or no rule at all? A specification of bars only is
not empty, though it has no rules. -/
def isEmpty : RuleSource → Bool
  | .declared spec => Text.allBlank spec.toList
  | .registered rules => rules.isEmpty

theorem rules_eq_nil_of_isEmpty
    {source : RuleSource}
    (empty : source.isEmpty = true) :
    source.rules = [] := by
  cases source with
  | declared spec => exact Rule.parseSpec_of_allBlank empty
  | registered rules => exact List.isEmpty_iff.1 empty

end RuleSource

structure Field where
  name : String
  value : Value
  rules : RuleSource

structure PreparedField where
  name : String
  value : Value
  rules : List Rule

def Field.prepare (field : Field) : PreparedField :=
  { name := field.name, value := field.value, rules := field.rules.rules }

/-- A record as validation sees it: its fields in order, and the value of any of
its fields by name. -/
structure FieldSource where
  fields : List Field
  lookup : String → Option Value

/-- The value of the field that confirms others, as it was before any rule ran. -/
structure Companion where
  name : String
  value : Option Value

namespace Companion

def isPresent (companion : Companion) : Bool :=
  companion.value.isSome

/-- Is the companion there with an equal value? -/
def confirms (companion : Companion) (value : Value) : Bool :=
  companion.value.any fun held => held.same value

end Companion

/-- The fields that have something to validate them by. -/
def FieldSource.ruledFields (source : FieldSource) : List Field :=
  source.fields.filter fun field => !field.rules.isEmpty

def FieldSource.prepared (source : FieldSource) : List PreparedField :=
  source.ruledFields.map Field.prepare

/-- The companion of a name on a record. A null companion counts as absent. -/
def FieldSource.companion (source : FieldSource) (name : String) : Companion :=
  { name, value := (source.lookup name).filter fun value => !value.isNull }

end Fieldwise
