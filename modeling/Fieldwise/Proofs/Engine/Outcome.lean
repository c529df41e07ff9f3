import Fieldwise.Validator.Basic

/-!
Contract: the outcome of one rule on one value.

Owns: the outcome as a relation with one case for each way in which the
evaluation of a rule can end, and the proof that evaluation decides it.

Does **not** own: the walk over the rules of a record (`Fieldwise.Proofs.Engine.Walk`).

The relation sees the name and the value of the field, the rule, the companion and
the predicate behind the rule's kind. It has no access to other fields, to other
rules or to what was reported before.
-/

set_option autoImplicit false

namespace Fieldwise

theorem Value.isNull_eq_true_iff (value : Value) :
    value.isNull = true ↔ value = .null := by
  cases value <;> simp [Value.isNull]

/-- A predicate applies to every value but null, and to null if it tests null. -/
def Predicate.AppliesTo (predicate : Predicate) (value : Value) : Prop :=
  value = .null → predicate.checksNull = true

theorem Predicate.appliesTo_iff (predicate : Predicate) (value : Value) :
    predicate.AppliesTo value ↔ (value.isNull && !predicate.checksNull) = false := by
  unfold AppliesTo
  rw [← Value.isNull_eq_true_iff]
  cases value.isNull <;> cases predicate.checksNull <;> simp

/-- What a rule of a field leads to, given the predicate behind the rule's kind. -/
inductive Outcome (name : String) (value : Value) (rule : Rule) (companion : Companion) :
    Option Predicate → Option FieldError → Prop where
  /-- There is no predicate behind the kind, null or not. -/
  | unknown :
      Outcome name value rule companion none
        (some (FieldError.ofFault name rule (.unknownRule rule.kind.name)))
  /-- The value is null, and the predicate does not test null. -/
  | skipped {predicate : Predicate}
      (null : value = .null)
      (untested : predicate.checksNull = false) :
      Outcome name value rule companion (some predicate) none
  /-- The value has another shape than the predicate asks for. -/
  | mistyped {predicate : Predicate} {fault : Fault}
      (applies : predicate.AppliesTo value)
      (refused : predicate.expects.demand value = .error fault) :
      Outcome name value rule companion (some predicate)
        (some (FieldError.ofFault name rule fault))
  /-- The test came to no verdict. -/
  | undecided {predicate : Predicate} {carried : predicate.expects.Carrier} {fault : Fault}
      (applies : predicate.AppliesTo value)
      (received : predicate.expects.demand value = .ok carried)
      (verdict : predicate.check carried rule.parameter ⟨name, companion⟩ = .error fault) :
      Outcome name value rule companion (some predicate)
        (some (FieldError.ofFault name rule fault))
  /-- The value did not pass the test. -/
  | failed {predicate : Predicate} {carried : predicate.expects.Carrier}
      (applies : predicate.AppliesTo value)
      (received : predicate.expects.demand value = .ok carried)
      (verdict : predicate.check carried rule.parameter ⟨name, companion⟩ = .ok false) :
      Outcome name value rule companion (some predicate)
        (some (predicate.failure rule value ⟨name, companion⟩))
  /-- The value passed the test. -/
  | passed {predicate : Predicate} {carried : predicate.expects.Carrier}
      (applies : predicate.AppliesTo value)
      (received : predicate.expects.demand value = .ok carried)
      (verdict : predicate.check carried rule.parameter ⟨name, companion⟩ = .ok true) :
      Outcome name value rule companion (some predicate) none

section Evaluation

variable {name : String} {value : Value} {rule : Rule} {companion : Companion}

theorem error?_of_applies
    {predicate : Predicate}
    (applies : predicate.AppliesTo value) :
    predicate.error? rule value ⟨name, companion⟩ =
      match predicate.judge value rule.parameter ⟨name, companion⟩ with
      | .ok true => none
      | .ok false => some (predicate.failure rule value ⟨name, companion⟩)
      | .error fault => some (FieldError.ofFault name rule fault) := by
  rw [Predicate.appliesTo_iff] at applies
  unfold Predicate.error?
  rw [applies]
  rfl

/-- Evaluation leads to an outcome of the relation. -/
theorem outcome_error? (catalogue : Catalogue) :
    Outcome name value rule companion (catalogue.get? rule.kind)
      (catalogue.error? rule value ⟨name, companion⟩) := by
  unfold Catalogue.error?
  cases catalogue.get? rule.kind with
  | none => exact .unknown
  | some predicate =>
      by_cases applies : predicate.AppliesTo value
      · simp only [error?_of_applies applies, Predicate.judge]
        cases received : predicate.expects.demand value with
        | error fault => exact .mistyped applies received
        | ok carried =>
            simp only
            cases verdict : predicate.check carried rule.parameter ⟨name, companion⟩ with
            | error fault => exact .undecided applies received verdict
            | ok holds =>
                cases holds with
                | true => exact .passed applies received verdict
                | false => exact .failed applies received verdict
      · have skips : (value.isNull && !predicate.checksNull) = true := by
          rw [Predicate.appliesTo_iff] at applies
          simpa using applies
        simp only [Predicate.error?, skips, if_true]
        rw [Bool.and_eq_true, Value.isNull_eq_true_iff] at skips
        exact .skipped skips.1 (by simpa using skips.2)

/-- The relation leaves no choice: an outcome is the one that evaluation leads to. -/
theorem Outcome.error?_eq
    {catalogue : Catalogue} {outcome : Option FieldError}
    (given : Outcome name value rule companion (catalogue.get? rule.kind) outcome) :
    catalogue.error? rule value ⟨name, companion⟩ = outcome := by
  unfold Catalogue.error?
  generalize catalogue.get? rule.kind = predicate? at given ⊢
  cases given with
  | unknown => rfl
  | skipped null untested => simp [Predicate.error?, Value.isNull, null, untested]
  | mistyped applies refused =>
      simp only [error?_of_applies applies, Predicate.judge, refused]
  | undecided applies received verdict =>
      simp only [error?_of_applies applies, Predicate.judge, received, verdict]
  | failed applies received verdict =>
      simp only [error?_of_applies applies, Predicate.judge, received, verdict]
  | passed applies received verdict =>
      simp only [error?_of_applies applies, Predicate.judge, received, verdict]

theorem outcome_iff_error?_eq (catalogue : Catalogue) (outcome : Option FieldError) :
    Outcome name value rule companion (catalogue.get? rule.kind) outcome ↔
      catalogue.error? rule value ⟨name, companion⟩ = outcome := by
  constructor
  · exact Outcome.error?_eq
  · intro led
    rw [← led]
    exact outcome_error? catalogue

end Evaluation

end Fieldwise
