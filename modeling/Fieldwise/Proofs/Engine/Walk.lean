import Mathlib.Data.List.Forall2
import Mathlib.Data.List.ReduceOption
import Fieldwise.Proofs.Engine.Outcome

/-!
Contract: the walk of a validator over the rules of a record.

Owns: the errors of one field, the closed form of the two loops that evaluate a
record, and the statement of the walk as one outcome for each rule of each field.

Does **not** own: the outcome of one rule (`Fieldwise.Proofs.Engine.Outcome`).

Both loops carry a growing report. The invariant of each is that the report is what
it was before the loop, followed by the errors of what the loop has passed; from it
the loops become a concatenation, in which no part can see another.
-/

set_option autoImplicit false

namespace Fieldwise

namespace Catalogue

/-- The errors of a field with some rules, in the order of the rules. -/
def errorsOf
    (catalogue : Catalogue)
    (companion : Companion)
    (name : String)
    (value : Value)
    (rules : List Rule) :
    List FieldError :=
  rules.filterMap fun rule => catalogue.error? rule value ⟨name, companion⟩

variable (catalogue : Catalogue) (companion : Companion)

theorem errorsOf_append (name : String) (value : Value) (earlier later : List Rule) :
    catalogue.errorsOf companion name value (earlier ++ later) =
      catalogue.errorsOf companion name value earlier ++
        catalogue.errorsOf companion name value later :=
  List.filterMap_append

theorem errorsOf_singleton (name : String) (value : Value) (rule : Rule) :
    catalogue.errorsOf companion name value [rule] =
      (catalogue.error? rule value ⟨name, companion⟩).toList := by
  cases found : catalogue.error? rule value ⟨name, companion⟩ <;> simp [errorsOf, found]

theorem length_errorsOf_le (name : String) (value : Value) (rules : List Rule) :
    (catalogue.errorsOf companion name value rules).length ≤ rules.length :=
  List.length_filterMap_le _ _

/-! ## The loops -/

theorem evaluate_errors (field : PreparedField) (report : Report) (rule : Rule) :
    (catalogue.evaluate companion field report rule).errors =
      report.errors ++
        (catalogue.error? rule field.value ⟨field.name, companion⟩).toList := by
  unfold evaluate
  cases catalogue.error? rule field.value ⟨field.name, companion⟩ with
  | none => simp
  | some error => rfl

theorem evaluateField_errors (report : Report) (field : PreparedField) :
    (catalogue.evaluateField companion report field).errors =
      report.errors ++ catalogue.errorsOf companion field.name field.value field.rules := by
  obtain ⟨name, value, rules⟩ := field
  unfold evaluateField errorsOf
  -- The fields of the loop's argument stay, so only the rules still to come vary.
  suffices loop : ∀ (rest : List Rule) (before : Report),
      (rest.foldl (catalogue.evaluate companion ⟨name, value, rules⟩) before).errors =
        before.errors ++
          rest.filterMap fun rule => catalogue.error? rule value ⟨name, companion⟩ from
    loop rules report
  intro rest
  induction rest with
  | nil => intro before; simp
  | cons rule rest inductionHypothesis =>
      intro before
      rw [List.foldl_cons, inductionHypothesis, evaluate_errors, List.append_assoc]
      cases found : catalogue.error? rule value ⟨name, companion⟩ <;> simp [found]

theorem foldl_evaluateField_errors (fields : List PreparedField) (report : Report) :
    (fields.foldl (catalogue.evaluateField companion) report).errors =
      report.errors ++ fields.flatMap fun field =>
        catalogue.errorsOf companion field.name field.value field.rules := by
  induction fields generalizing report with
  | nil => simp
  | cons field rest inductionHypothesis =>
      rw [List.foldl_cons, inductionHypothesis, evaluateField_errors, List.append_assoc,
        List.flatMap_cons]

end Catalogue

/-! ## Fields that are dropped -/

/-- Dropping the fields whose rule source is empty loses no error: such a field has
no rules. -/
theorem FieldSource.flatMap_prepared
    (source : FieldSource)
    (errors : PreparedField → List FieldError)
    (silent : ∀ field : PreparedField, field.rules = [] → errors field = []) :
    source.prepared.flatMap errors = source.fields.flatMap fun field => errors field.prepare := by
  unfold prepared ruledFields
  induction source.fields with
  | nil => rfl
  | cons field rest inductionHypothesis =>
      cases empty : field.rules.isEmpty with
      | false =>
          simpa [empty] using inductionHypothesis
      | true =>
          have none : errors field.prepare = [] :=
            silent field.prepare (RuleSource.rules_eq_nil_of_isEmpty empty)
          simpa [empty, none] using inductionHypothesis

namespace Validator

/-- A report is the concatenation of the errors of the fields. -/
theorem validate_errors (validator : Validator) (source : FieldSource) :
    (validator.validate source).errors =
      source.fields.flatMap fun field =>
        validator.catalogue.errorsOf
          (source.companion validator.config.confirmationField)
          field.name field.value field.rules.rules := by
  unfold validate
  rw [Catalogue.foldl_evaluateField_errors]
  exact source.flatMap_prepared
    (fun field => validator.catalogue.errorsOf
      (source.companion validator.config.confirmationField) field.name field.value field.rules)
    (fun field none => by simp [Catalogue.errorsOf, none])

theorem validate_append
    (validator : Validator)
    (earlier later : List Field)
    (lookup : String → Option Value) :
    validator.validate ⟨earlier ++ later, lookup⟩ =
      (validator.validate ⟨earlier, lookup⟩).merge (validator.validate ⟨later, lookup⟩) := by
  apply Report.ext
  simp only [Report.merge, validate_errors, List.flatMap_append]
  rfl

end Validator

/-- Every rule that a source asks for, with its field: the fields in order and,
inside each, its rules in order. Fields that are dropped are not left out here. -/
def FieldSource.demands (source : FieldSource) : List (Field × Rule) :=
  source.fields.flatMap fun field => field.rules.rules.map fun rule => (field, rule)

/-- A relation that every demand decides as evaluation does describes the report: one
outcome for each demand in its place. -/
theorem Validator.validate_eq_iff_walk
    (validator : Validator)
    (source : FieldSource)
    {leadsTo : Field × Rule → Option FieldError → Prop}
    (decides : ∀ demand outcome,
      leadsTo demand outcome ↔
        validator.catalogue.error? demand.2 demand.1.value
          ⟨demand.1.name, source.companion validator.config.confirmationField⟩ = outcome)
    (report : Report) :
    validator.validate source = report ↔
      ∃ outcomes : List (Option FieldError),
        List.Forall₂ leadsTo source.demands outcomes ∧
          report.errors = outcomes.reduceOption := by
  let companion := source.companion validator.config.confirmationField
  let outcomeOf : Field × Rule → Option FieldError := fun demand =>
    validator.catalogue.error? demand.2 demand.1.value ⟨demand.1.name, companion⟩
  have walked : (validator.validate source).errors =
      (source.demands.map outcomeOf).reduceOption := by
    rw [validator.validate_errors, List.reduceOption, List.filterMap_map,
      FieldSource.demands, List.filterMap_flatMap]
    simp only [List.filterMap_map]
    rfl
  have decided : ∀ outcomes : List (Option FieldError),
      List.Forall₂ leadsTo source.demands outcomes ↔
        source.demands.map outcomeOf = outcomes := by
    intro outcomes
    rw [← List.forall₂_eq_eq_eq, List.forall₂_map_left_iff]
    have same : leadsTo = fun demand outcome => outcomeOf demand = outcome := by
      funext demand outcome
      exact propext (decides demand outcome)
    rw [same]
  constructor
  · rintro rfl
    exact ⟨_, (decided _).2 rfl, walked⟩
  · intro walk
    rcases walk with ⟨outcomes, led, listed⟩
    obtain rfl := (decided outcomes).1 led
    exact Report.ext (walked.trans listed.symm)

/-- **The report of a validator is the walk over every rule of every field.** It
lists the outcomes of the demands of the source, one for each in its place, and each
outcome is a matter of its own field, rule, predicate and of the one companion. So a
field that is dropped costs no error, and with one lookup the report on two lists
of fields is the report on the first followed by that on the second. -/
theorem Validator.validate_walks (validator : Validator) (source : FieldSource) :
    (∀ report : Report,
      validator.validate source = report ↔
        ∃ outcomes : List (Option FieldError),
          List.Forall₂
            (fun (demand : Field × Rule) outcome =>
              Outcome demand.1.name demand.1.value demand.2
                (source.companion validator.config.confirmationField)
                (validator.catalogue.get? demand.2.kind) outcome)
            source.demands outcomes ∧
          report.errors = outcomes.reduceOption) ∧
    (∀ field ∈ source.fields, field ∉ source.ruledFields → field.rules.rules = []) ∧
    (∀ earlier later : List Field,
      validator.validate ⟨earlier ++ later, source.lookup⟩ =
        (validator.validate ⟨earlier, source.lookup⟩).merge
          (validator.validate ⟨later, source.lookup⟩)) := by
  refine ⟨?_, ?_, fun earlier later => validator.validate_append earlier later source.lookup⟩
  · exact validator.validate_eq_iff_walk source fun demand outcome =>
      outcome_iff_error?_eq validator.catalogue outcome
  · intro field member dropped
    apply RuleSource.rules_eq_nil_of_isEmpty
    by_contra kept
    exact dropped (List.mem_filter.2 ⟨member, by simpa using kept⟩)

end Fieldwise
