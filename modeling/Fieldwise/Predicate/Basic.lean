import Fieldwise.Record.Basic
import Fieldwise.Report.Basic

/-!
Contract: predicates, the tests behind kinds of rule.

Owns: the predicate type, what a test may know besides the value, and the
evaluation of one rule on one value.

Does **not** own: the built-in predicates (`Fieldwise.Predicate.BuiltIn`).
-/

set_option autoImplicit false

namespace Fieldwise

/-- What a test may know besides the value and the parameter. -/
structure RuleContext where
  field : String
  companion : Companion

/-- The test behind a kind of rule. It states the shape of value it asks for, and
receives only what it needs of a value of that shape. -/
structure Predicate where
  expects : Shape
  /-- Is null tested too? Otherwise the rule does not apply to null. -/
  checksNull : Bool
  /-- The verdict on a value, or the fault that prevents one. -/
  check : expects.Carrier → Option Parameter → RuleContext → Except Fault Bool
  failure : Rule → Value → RuleContext → FieldError

namespace Predicate

/-- The error that most rules lead to. -/
def ruleFailure (rule : Rule) (value : Value) (context : RuleContext) : FieldError :=
  FieldError.ruleFailed context.field rule value

/-- The predicate of a test that needs a shape of value, skips null, and leads to
the usual error. -/
def ofCheck
    (expects : Shape)
    (check : expects.Carrier → Option Parameter → Except Fault Bool) :
    Predicate :=
  { expects
    checksNull := false
    check := fun value parameter _ => check value parameter
    failure := ruleFailure }

def ofTest (expects : Shape) (test : expects.Carrier → Bool) : Predicate :=
  ofCheck expects fun value _ => .ok (test value)

/-- The predicate with one outcome for every value of a shape. -/
def constant (expects : Shape) (checksNull : Bool) (outcome : Except Fault Bool) :
    Predicate :=
  { expects
    checksNull
    check := fun _ _ _ => outcome
    failure := ruleFailure }

/-- The verdict on any value: one of another shape is a fault, and the parameter
is not looked at then. -/
def judge
    (predicate : Predicate)
    (value : Value)
    (parameter : Option Parameter)
    (context : RuleContext) :
    Except Fault Bool :=
  match predicate.expects.demand value with
  | .ok carried => predicate.check carried parameter context
  | .error fault => .error fault

/-- The error that a rule leads to on a value, if any: the failure of a value that
did not pass, or the fault that prevented a verdict. Null leads to none unless it
is tested. -/
def error?
    (predicate : Predicate)
    (rule : Rule)
    (value : Value)
    (context : RuleContext) :
    Option FieldError :=
  if value.isNull && !predicate.checksNull then none
  else
    match predicate.judge value rule.parameter context with
    | .ok true => none
    | .ok false => some (predicate.failure rule value context)
    | .error fault => some (FieldError.ofFault context.field rule fault)

end Predicate

end Fieldwise
