import Fieldwise.Proofs.Engine.Dynamic
import Fieldwise.Proofs.Lists
import Fieldwise.Validator.Builder
import Fieldwise.Validator.Call

/-!
Contract: histories of calls on one validator.

Owns: runs, in which the fields of every dynamic record may be visited in any order;
the validator after a history as a function of its registrations; and what follows
for the answers: validations leave no trace, validations by a schema see no rules,
and a registered rule only adds to its own field.

Does **not** own: the blocks of one report (`Fieldwise.Proofs.Engine.Dynamic`).

The invariant is that a validator is its start with the registrations of the history
carried out, those of predicates apart from those of rules. Neither kind sees the
other, and validations are no part of it.

What is said of a field is said of its block, the errors that its own rules lead to
(`errorsFor`). The errors that bear its name (`Report.ofField`) are a view of their own,
which is its block where predicates name the field they are asked about.
-/

set_option autoImplicit false

namespace Fieldwise

namespace Validator

/-! ## Runs -/

inductive MayAnswer (validator : Validator) : Call → Option Report → Prop where
  | register (registration : Registration) :
      MayAnswer validator (.register registration) none
  | registerPredicate (kind : Kind) (predicate : Predicate) :
      MayAnswer validator (.registerPredicate kind predicate) none
  | validateDynamic {record : DynamicRecord} {report : Report}
      (reported : validator.MayReport record report) :
      MayAnswer validator (.validateDynamic record) (some report)
  | validate (source : FieldSource) :
      MayAnswer validator (.validate source) (some (validator.validate source))

/-- A history of calls with their answers. -/
inductive Run : Validator → List (Call × Option Report) → Prop where
  | done (validator : Validator) : Run validator []
  | call {validator : Validator} {call : Call} {answer : Option Report}
      {rest : List (Call × Option Report)}
      (answered : validator.MayAnswer call answer)
      (continued : Run (validator.after call) rest) :
      Run validator ((call, answer) :: rest)

theorem mayAnswer_answer? (validator : Validator) (call : Call) :
    validator.MayAnswer call (validator.answer? call) := by
  cases call with
  | register registration => exact .register registration
  | registerPredicate kind predicate => exact .registerPredicate kind predicate
  | validateDynamic record => exact .validateDynamic (validator.mayReport_validateDynamic record)
  | validate source => exact .validate source

theorem run_answers (validator : Validator) (calls : List Call) :
    Run validator (calls.zip (validator.answers calls)) := by
  induction calls generalizing validator with
  | nil => exact .done validator
  | cons call rest inductionHypothesis =>
      exact .call (validator.mayAnswer_answer? call) (inductionHypothesis _)

/-- Each call of a run is answered by the validator after the calls before it. -/
theorem Run.answered
    {start : Validator} {earlier later : List (Call × Option Report)}
    {call : Call} {answer : Option Report}
    (run : Run start (earlier ++ (call, answer) :: later)) :
    (start.afterAll (earlier.map Prod.fst)).MayAnswer call answer := by
  induction earlier generalizing start with
  | nil =>
      cases run with
      | call answered continued => exact answered
  | cons head rest inductionHypothesis =>
      cases run with
      | call answered continued => exact inductionHypothesis continued

/-! ## The validator after a history -/

namespace Call

def registration? : Call → Option Registration
  | .register registration => some registration
  | _ => none

def predicate? : Call → Option (Kind × Predicate)
  | .registerPredicate kind predicate => some (kind, predicate)
  | _ => none

def isRegistration (call : Call) : Bool :=
  call.registration?.isSome || call.predicate?.isSome

def registersPredicate (call : Call) : Bool :=
  call.predicate?.isSome

theorem not_isRegistration_iff (call : Call) :
    call.isRegistration = false ↔ call.registration? = none ∧ call.predicate? = none := by
  rw [isRegistration, Bool.or_eq_false_iff, Option.isSome_eq_false_iff,
    Option.isSome_eq_false_iff, Option.isNone_iff_eq_none, Option.isNone_iff_eq_none]

theorem not_registersPredicate_iff (call : Call) :
    call.registersPredicate = false ↔ call.predicate? = none := by
  rw [registersPredicate, Option.isSome_eq_false_iff, Option.isNone_iff_eq_none]

end Call

def registrations (calls : List Call) : List Registration :=
  calls.filterMap Call.registration?

def predicates (calls : List Call) : List (Kind × Predicate) :=
  calls.filterMap Call.predicate?

/-- The invariant of a history: the settings of the start, and the registrations
carried out in order. -/
theorem afterAll_eq (start : Validator) (calls : List Call) :
    start.afterAll calls =
      { config := start.config
        catalogue := start.catalogue.registerAll (predicates calls)
        rules := start.rules.registerAll (registrations calls) } := by
  unfold afterAll
  induction calls generalizing start with
  | nil => rfl
  | cons call rest inductionHypothesis =>
      rw [List.foldl_cons, inductionHypothesis]
      cases call <;> rfl

theorem afterAll_append (start : Validator) (earlier later : List Call) :
    start.afterAll (earlier ++ later) = (start.afterAll earlier).afterAll later :=
  List.foldl_append

/-- A fresh start with the registrations of a history, and nothing else of it. -/
def refreshed (start : Validator) (calls : List Call) : Validator :=
  start.afterAll (calls.filter Call.isRegistration)

theorem refreshed_eq_afterAll (start : Validator) (calls : List Call) :
    start.refreshed calls = start.afterAll calls := by
  have rules : registrations (calls.filter Call.isRegistration) = registrations calls :=
    filterMap_filter_of_dropped
      (fun call dropped => (call.not_isRegistration_iff.1 dropped).1) calls
  have tests : predicates (calls.filter Call.isRegistration) = predicates calls :=
    filterMap_filter_of_dropped
      (fun call dropped => (call.not_isRegistration_iff.1 dropped).2) calls
  rw [refreshed, afterAll_eq, afterAll_eq, rules, tests]

theorem validate_afterAll_filter_registersPredicate
    (start : Validator)
    (calls : List Call)
    (source : FieldSource) :
    (start.afterAll (calls.filter Call.registersPredicate)).validate source =
      (start.afterAll calls).validate source := by
  have tests : predicates (calls.filter Call.registersPredicate) = predicates calls :=
    filterMap_filter_of_dropped (fun call => call.not_registersPredicate_iff.1) calls
  rw [afterAll_eq, afterAll_eq, tests]
  rfl

/-- Where no predicate is registered, each field keeps its errors and adds some for
the rules that are registered for it. -/
theorem errorsFor_afterAll
    {validator : Validator} {calls : List Call}
    (tests : predicates calls = [])
    (record : DynamicRecord)
    (name : String) :
    (validator.afterAll calls).errorsFor record name =
      validator.errorsFor record name ++
        validator.catalogue.errorsOf
          ((record.bind []).companion validator.config.confirmationField)
          name ((record.get? name).getD .null)
          (Registration.rulesFor name (registrations calls)) := by
  rw [afterAll_eq, tests]
  unfold errorsFor
  rw [RuleBook.rulesOf_registerAll, ← Catalogue.errorsOf_append]
  rfl

/-- A single registration adds errors to its own field, at most one for each of its
rules, and to no other. -/
theorem errorsFor_afterAll_of_single
    {validator : Validator} {calls : List Call} {registration : Registration}
    (single : registrations calls = [registration])
    (tests : predicates calls = [])
    (record : DynamicRecord) :
    ∃ extra : List FieldError,
      extra.length ≤ registration.rules.length ∧
        ∀ other,
          (validator.afterAll calls).errorsFor record other =
            validator.errorsFor record other ++
              if other = registration.field then extra else [] := by
  let companion := (record.bind []).companion validator.config.confirmationField
  refine ⟨validator.catalogue.errorsOf companion registration.field
    ((record.get? registration.field).getD .null) registration.rules,
    Catalogue.length_errorsOf_le .., ?_⟩
  intro other
  rw [errorsFor_afterAll tests, single]
  by_cases own : other = registration.field
  · subst own
    simp [Registration.rulesFor, companion]
  · have unruled : Registration.rulesFor other [registration] = [] := by
      apply Registration.rulesFor_of_absent
      simpa using own
    rw [unruled, if_neg own]
    rfl

theorem Run.exists_mayReport
    {start : Validator} {earlier later : List (Call × Option Report)}
    {record : DynamicRecord} {answer : Option Report}
    (run : Run start (earlier ++ (.validateDynamic record, answer) :: later)) :
    ∃ report,
      answer = some report ∧
        (start.refreshed (earlier.map Prod.fst)).MayReport record report := by
  have answered := run.answered
  rw [← refreshed_eq_afterAll] at answered
  cases answered with
  | validateDynamic reported => exact ⟨_, rfl, reported⟩

theorem Run.reportsBlocks
    {start : Validator} {earlier later : List (Call × Option Report)}
    {record : DynamicRecord} {report : Report}
    (run : Run start (earlier ++ (.validateDynamic record, some report) :: later)) :
    (start.refreshed (earlier.map Prod.fst)).ReportsBlocks record report := by
  obtain ⟨_, same, reported⟩ := run.exists_mayReport
  cases same
  exact (mayReport_iff_reportsBlocks _ record report).1 reported

/-- **Whole runs of a validator.** In every history of calls, each report on a dynamic
record is one that a fresh validator with only the earlier registrations may give,
and all of those consist of the same blocks. Each report on a record that brings its
own rules depends on the registered predicates only. And where a single registration
of rules stands between two reports on one dynamic record, and none of a predicate,
it adds at most one error for each of its rules, at the end of its field's block, and
leaves every other block as it was. This is about blocks, whatever the predicates. The
errors that bear a name change in the same way where predicates name the field they are
asked about. -/
theorem Run.reports
    {start : Validator} {history : List (Call × Option Report)}
    (run : Run start history) :
    (∀ earlier later record answer,
      history = earlier ++ (.validateDynamic record, answer) :: later →
        let fresh := start.refreshed (earlier.map Prod.fst)
        ∃ report,
          answer = some report ∧ fresh.MayReport record report ∧
            fresh.ReportsBlocks record report ∧
            ∀ other, fresh.MayReport record other → fresh.ReportsBlocks record other) ∧
    (∀ earlier later source answer,
      history = earlier ++ (.validate source, answer) :: later →
        answer =
          some ((start.afterAll ((earlier.map Prod.fst).filter Call.registersPredicate)).validate
            source)) ∧
    (∀ earlier between later record first second registration,
      history =
          earlier ++ (.validateDynamic record, some first) ::
            (between ++ (.validateDynamic record, some second) :: later) →
        registrations (between.map Prod.fst) = [registration] →
          predicates (between.map Prod.fst) = [] →
            let fresh := start.refreshed (earlier.map Prod.fst)
            let again := start.refreshed
              ((earlier ++ (.validateDynamic record, some first) :: between).map Prod.fst)
            ∃ extra : List FieldError,
              extra.length ≤ registration.rules.length ∧
              fresh.ReportsBlocks record first ∧ again.ReportsBlocks record second ∧
              (∀ other,
                again.errorsFor record other =
                  fresh.errorsFor record other ++
                    if other = registration.field then extra else []) ∧
              (fresh.catalogue.NamesFields →
                ∀ other,
                  second.ofField other =
                    first.ofField other ++
                      if other = registration.field then extra else [])) := by
  refine ⟨?_, ?_, ?_⟩
  · rintro earlier later record answer rfl fresh
    obtain ⟨report, same, reported⟩ := run.exists_mayReport
    refine ⟨report, same, reported, ?_, ?_⟩
    · exact (fresh.mayReport_iff_reportsBlocks record report).1 reported
    · intro other
      exact (fresh.mayReport_iff_reportsBlocks record other).1
  · rintro earlier later source answer rfl
    rw [validate_afterAll_filter_registersPredicate]
    cases run.answered
    rfl
  · rintro earlier between later record first second registration rfl single tests fresh again
    have firstBlocks : fresh.ReportsBlocks record first := run.reportsBlocks
    have regrouped : Run start
        ((earlier ++ (.validateDynamic record, some first) :: between) ++
          (.validateDynamic record, some second) :: later) := by
      rw [List.append_assoc]
      exact run
    have secondBlocks : again.ReportsBlocks record second := regrouped.reportsBlocks
    have continued : again = fresh.afterAll (between.map Prod.fst) := by
      show start.refreshed _ = (start.refreshed _).afterAll _
      rw [refreshed_eq_afterAll, refreshed_eq_afterAll, List.map_append, afterAll_append]
      rfl
    obtain ⟨extra, few, added⟩ := errorsFor_afterAll_of_single single tests record
    refine ⟨extra, few, firstBlocks, secondBlocks, ?_, ?_⟩
    · rw [continued]
      exact added
    · intro named other
      have namedAgain : again.catalogue.NamesFields := by
        rw [continued, afterAll_eq, tests]
        exact named
      rw [firstBlocks.ofField_eq named, secondBlocks.ofField_eq namedAgain, continued, added]

def requireName : Registration :=
  .single "Name" ⟨.builtIn .required, none⟩

/-- A rule that is registered between two validations of an empty record. -/
theorem run_requireName_adds_at_most_one :
    ∃ first second extra,
      Run Validator.default
        [(.validateDynamic Table.empty, some first), (.register requireName, none),
          (.validateDynamic Table.empty, some second)] ∧
        extra.length ≤ 1 ∧
        ∀ other,
          second.ofField other = first.ofField other ++ if other = "Name" then extra else [] := by
  have run := run_answers Validator.default
    [.validateDynamic Table.empty, .register requireName, .validateDynamic Table.empty]
  obtain ⟨extra, few, -, -, -, added⟩ :=
    (Run.reports run).2.2 [] [(.register requireName, none)] [] Table.empty _ _ requireName
      rfl rfl rfl
  exact ⟨_, _, extra, run, few, added (Catalogue.builtIn_namesFields _ _)⟩

end Validator

end Fieldwise
