import Fieldwise.Proofs.Book
import Fieldwise.Proofs.Engine.Walk
import Fieldwise.Proofs.Report.ByName

/-!
Contract: reports on dynamic records, whose fields are visited in no fixed order.

Owns: the reports that a visit in some order can lead to, the errors of one field of
a dynamic record, the condition that predicates name the field they are asked about,
and the views of such reports by field.

Does **not** own: the errors of a field as a walk over its rules
(`Fieldwise.Proofs.Engine.Walk`).

A report on a dynamic record is made of one block for each field, which depends on
nothing but that field's rules and value, the predicates and the companion. Only the
order of the blocks is open.
-/

set_option autoImplicit false

namespace Fieldwise

/-! ## Predicates that name their field -/

/-- The error for a value that failed is an error of the field that was asked about. -/
def Predicate.NamesField (predicate : Predicate) : Prop :=
  ∀ (rule : Rule) (value : Value) (context : RuleContext),
    (predicate.failure rule value context).field = context.field

namespace Catalogue

def NamesFields (catalogue : Catalogue) : Prop :=
  ∀ (kind : Kind) (predicate : Predicate),
    catalogue.get? kind = some predicate → predicate.NamesField

theorem NamesFields.registerAll
    {catalogue : Catalogue} {predicates : List (Kind × Predicate)}
    (names : catalogue.NamesFields)
    (named : ∀ entry ∈ predicates, entry.2.NamesField) :
    (catalogue.registerAll predicates).NamesFields :=
  forall_get?_registerAll names named

theorem namesField_ofKeyword
    [Libraries]
    (reachability : Reachability)
    (timeout : Duration)
    (keyword : Keyword) :
    (Predicate.ofKeyword reachability timeout keyword).NamesField := by
  intro rule value context
  cases keyword with
  | confirmed =>
      show (Predicate.confirmed.failure rule value context).field = context.field
      unfold Predicate.confirmed
      dsimp only
      split <;> rfl
  | _ => rfl

theorem builtIn_namesFields [Libraries] (reachability : Reachability) (timeout : Duration) :
    (builtIn reachability timeout).NamesFields :=
  forall_get?_builtIn (namesField_ofKeyword reachability timeout)

theorem NamesFields.field_of_mem_errorsOf
    {catalogue : Catalogue} {companion : Companion} {name : String} {value : Value}
    {rules : List Rule} {error : FieldError}
    (names : catalogue.NamesFields)
    (member : error ∈ catalogue.errorsOf companion name value rules) :
    error.field = name := by
  obtain ⟨rule, -, led⟩ := List.mem_filterMap.1 member
  have outcome : Outcome name value rule companion (catalogue.get? rule.kind) (some error) :=
    (outcome_iff_error?_eq catalogue _).2 led
  cases held : catalogue.get? rule.kind with
  | none =>
      rw [held] at outcome
      cases outcome
      rfl
  | some predicate =>
      rw [held] at outcome
      cases outcome with
      | mistyped => rfl
      | undecided => rfl
      | failed => exact names rule.kind predicate held rule value ⟨name, companion⟩

end Catalogue

/-! ## Blocks -/

/-- In blocks of errors that name their field, the errors of a field are its block. -/
theorem Report.ofField_flatMap
    {names : List String} {blockOf : String → List FieldError}
    (distinct : names.Nodup)
    (named : ∀ name, ∀ error ∈ blockOf name, error.field = name)
    (name : String) :
    (Report.mk (names.flatMap blockOf)).ofField name =
      if name ∈ names then blockOf name else [] :=
  itemsOf_flatMap distinct named name

namespace Validator

/-! ## Reports on a dynamic record -/

/-- The errors of one field of a dynamic record, by the rules registered for it. -/
def errorsFor (validator : Validator) (record : DynamicRecord) (name : String) :
    List FieldError :=
  validator.catalogue.errorsOf
    ((record.bind []).companion validator.config.confirmationField)
    name ((record.get? name).getD .null) (validator.rules.rulesOf name)

/-- The report on a dynamic record whose fields are visited in some order. -/
def MayReport (validator : Validator) (record : DynamicRecord) (report : Report) : Prop :=
  ∃ visited : List (String × List Rule),
    visited.Perm validator.rules.entries ∧ report = validator.validate (record.bind visited)

/-- A report is the concatenation of the errors of the fields with rules, the fields
in some order. -/
def ReportsBlocks (validator : Validator) (record : DynamicRecord) (report : Report) : Prop :=
  ∃ names : List String,
    names.Perm validator.rules.keys ∧
      report.errors = names.flatMap (validator.errorsFor record)

theorem mayReport_validateDynamic (validator : Validator) (record : DynamicRecord) :
    validator.MayReport record (validator.validateDynamic record) :=
  ⟨validator.rules.entries, List.Perm.refl _, rfl⟩

theorem validate_bind_errors
    (validator : Validator)
    (record : DynamicRecord)
    (names : List String) :
    (validator.validate
        (record.bind (names.map fun name => (name, validator.rules.rulesOf name)))).errors =
      names.flatMap (validator.errorsFor record) := by
  rw [validate_errors]
  simp only [DynamicRecord.bind, List.map_map, List.flatMap_map]
  rfl

/-- The order of the visit is the order of the blocks, and nothing else depends on it. -/
theorem mayReport_iff_reportsBlocks
    (validator : Validator)
    (record : DynamicRecord)
    (report : Report) :
    validator.MayReport record report ↔ validator.ReportsBlocks record report := by
  constructor
  · intro reported
    rcases reported with ⟨visited, visits, rfl⟩
    obtain ⟨names, permuted, rfl⟩ := (validator.rules.perm_entries_iff visited).1 visits
    exact ⟨names, permuted, validator.validate_bind_errors record names⟩
  · intro reports
    rcases reports with ⟨names, permuted, listed⟩
    refine ⟨names.map fun name => (name, validator.rules.rulesOf name), ?_, ?_⟩
    · exact (validator.rules.perm_entries_iff _).2 ⟨names, permuted, rfl⟩
    · exact Report.ext (listed.trans (validator.validate_bind_errors record names).symm)

theorem errorsFor_of_absent
    {validator : Validator} {name : String}
    (absent : name ∉ validator.rules.keys)
    (record : DynamicRecord) :
    validator.errorsFor record name = [] := by
  have unruled : validator.rules.rulesOf name = [] := by
    rw [RuleBook.rulesOf, (validator.rules.get?_eq_none_iff name).2 absent]
    rfl
  rw [errorsFor, unruled]
  rfl

/-- Whatever the order of the visit, a report has the same errors under each field. -/
theorem ReportsBlocks.ofField_eq
    {validator : Validator} {record : DynamicRecord} {report : Report}
    (reported : validator.ReportsBlocks record report)
    (named : validator.catalogue.NamesFields)
    (name : String) :
    report.ofField name = validator.errorsFor record name := by
  obtain ⟨names, permuted, listed⟩ := reported
  have distinct : names.Nodup := permuted.nodup_iff.2 validator.rules.nodup
  have block : ∀ other, ∀ error ∈ validator.errorsFor record other, error.field = other :=
    fun other error member => named.field_of_mem_errorsOf member
  obtain ⟨errors⟩ := report
  obtain rfl : errors = names.flatMap (validator.errorsFor record) := listed
  rw [Report.ofField_flatMap distinct block]
  by_cases present : name ∈ names
  · rw [if_pos present]
  · rw [if_neg present, errorsFor_of_absent (fun member => present (permuted.mem_iff.2 member))]

end Validator

end Fieldwise
