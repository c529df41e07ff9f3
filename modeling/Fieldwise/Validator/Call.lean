import Fieldwise.Validator.Basic

/-!
Contract: the use of a validator over time.

Owns: the calls that clients make, the validator after a call, the report that
answers a call, and both for whole histories of calls.

Does **not** own: clients. Calls of several clients reach a validator one after
the other, in some order.
-/

set_option autoImplicit false

namespace Fieldwise

namespace Validator

inductive Call where
  | register (registration : Registration)
  /-- Put a predicate behind a kind of rule. -/
  | registerPredicate (kind : Kind) (predicate : Predicate)
  /-- Ask for the report on a dynamic record. -/
  | validateDynamic (record : DynamicRecord)
  /-- Ask for the report on a record that brings its own rules. -/
  | validate (source : FieldSource)

def after (validator : Validator) : Call → Validator
  | .register registration => validator.register registration
  | .registerPredicate kind predicate => validator.registerPredicate kind predicate
  | .validateDynamic _ | .validate _ => validator

/-- The report that answers a call; registrations have none. -/
def answer? (validator : Validator) : Call → Option Report
  | .register _ | .registerPredicate _ _ => none
  | .validateDynamic record => some (validator.validateDynamic record)
  | .validate source => some (validator.validate source)

def afterAll (validator : Validator) (calls : List Call) : Validator :=
  calls.foldl after validator

def answers (validator : Validator) : List Call → List (Option Report)
  | [] => []
  | call :: calls => validator.answer? call :: answers (validator.after call) calls

end Validator

end Fieldwise
