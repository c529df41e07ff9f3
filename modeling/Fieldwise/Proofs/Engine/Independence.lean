import Fieldwise.Proofs.Engine.Dynamic
import Fieldwise.Validator.Builder

/-!
Contract: what a report on a dynamic record does not depend on.

Owns: the errors of a visit with the fields that they come from, and the proof that the
order of the visit shows in the order of the blocks only, and that of the record only
the values of the fields with rules and of the companion count.

Does **not** own: the errors of one field (`Fieldwise.Proofs.Engine.Walk`) and sorting by
name (`Fieldwise.Proofs.Report.ByName`).

A predicate may give its errors the name of another field. So errors are told apart by
the field that they come from, whose block they stand in, and this needs no condition on
the predicates. What is said of the name that errors bear (`Report.ofField` and
`Report.sortedByField`) is said of predicates that name their field.
-/

set_option autoImplicit false

namespace Fieldwise

/-- The value that a record holds under a name, null where it holds none. -/
def DynamicRecord.held (record : DynamicRecord) (name : String) : Value :=
  (record.get? name).getD .null

theorem DynamicRecord.held_insert_null
    {record : DynamicRecord} {name : String}
    (absent : record.get? name = none)
    (other : String) :
    DynamicRecord.held (record.insert name .null) other = record.held other := by
  unfold held
  rw [Table.insert, Table.get?_alter]
  by_cases same : other = name
  · rw [if_pos same, same, absent]
    rfl
  · rw [if_neg same]

/-- An absent companion is a null one. -/
theorem DynamicRecord.companion_eq
    (record : DynamicRecord)
    (visited : List (String × List Rule))
    (name : String) :
    (record.bind visited).companion name =
      ⟨name, (some (record.held name)).filter fun value => !value.isNull⟩ := by
  show Companion.mk name ((record.get? name).filter fun value => !value.isNull) = _
  unfold held
  cases record.get? name with
  | none => rfl
  | some value => rfl

namespace Validator

variable (validator : Validator) (record : DynamicRecord)

/-- The errors of the fields in the order of a visit, each with the field that it comes
from: the fields in turn and, inside each, its rules in their order. -/
def attributedErrors (visited : List (String × List Rule)) : List (String × FieldError) :=
  visited.flatMap fun entry =>
    let context : RuleContext :=
      { field := entry.1
        companion := (record.bind visited).companion validator.config.confirmationField }
    (entry.2.filterMap fun rule =>
      validator.catalogue.error? rule (record.held entry.1) context).map (Prod.mk entry.1)

theorem map_snd_attributedErrors (visited : List (String × List Rule)) :
    (validator.attributedErrors record visited).map Prod.snd =
      (validator.validate (record.bind visited)).errors := by
  rw [validate_errors, attributedErrors, List.map_flatMap]
  simp only [List.map_map, Function.comp_def, List.map_id']
  unfold DynamicRecord.bind
  rw [List.flatMap_map]
  rfl

/-! ## The order of the visit -/

section Visits

variable {validator} {visited : List (String × List Rule)}

theorem attributedErrors_eq_flatMap
    (visits : visited.Perm validator.rules.entries) :
    validator.attributedErrors record visited =
      (visited.map Prod.fst).flatMap fun name =>
        (validator.errorsFor record name).map (Prod.mk name) := by
  rw [List.flatMap_map]
  apply List.flatMap_congr
  intro entry member
  have rules : entry.2 = validator.rules.rulesOf entry.1 :=
    congrArg Prod.snd (RuleBook.eq_rulesOf_of_mem (visits.mem_iff.1 member))
  rw [rules]
  rfl

theorem nodup_of_visits (visits : visited.Perm validator.rules.entries) :
    (visited.map Prod.fst).Nodup :=
  (visits.map Prod.fst).nodup_iff.2 validator.rules.nodup

theorem fst_of_mem_map_mk (name : String) (errors : List FieldError) :
    ∀ item ∈ errors.map (Prod.mk name), item.1 = name := by
  intro item member
  obtain ⟨error, -, rfl⟩ := List.mem_map.1 member
  rfl

/-- The errors that come from one field do not depend on the visit. -/
theorem itemsOf_attributedErrors
    (visits : visited.Perm validator.rules.entries)
    (name : String) :
    itemsOf Prod.fst name (validator.attributedErrors record visited) =
      (validator.errorsFor record name).map (Prod.mk name) := by
  rw [attributedErrors_eq_flatMap record visits, itemsOf_flatMap (nodup_of_visits visits)
    fun other => fst_of_mem_map_mk other _]
  by_cases present : name ∈ visited.map Prod.fst
  · rw [if_pos present]
  · have absent : name ∉ validator.rules.keys := fun member =>
      present ((visits.map Prod.fst).mem_iff.2 member)
    rw [if_neg present, errorsFor_of_absent absent]
    rfl

theorem attributedErrors_between
    (visits : visited.Perm validator.rules.entries)
    (name : String) :
    ∃ before after : List (String × FieldError),
      validator.attributedErrors record visited =
        before ++ (validator.errorsFor record name).map (Prod.mk name) ++ after ∧
      ∀ item ∈ before ++ after, item.1 ≠ name := by
  rw [← itemsOf_attributedErrors record visits, attributedErrors_eq_flatMap record visits]
  exact exists_itemsOf_between (nodup_of_visits visits) (fun other => fst_of_mem_map_mk other _)
    name

theorem attributedErrors_perm
    {first second : List (String × List Rule)}
    (same : first.Perm second) :
    (validator.attributedErrors record first).Perm (validator.attributedErrors record second) :=
  same.flatMap_right _

end Visits

section Reports

variable {validator} {record} {report twin : Report}

/-- The errors that bear a name are the block of the field, where predicates name their
field. -/
theorem MayReport.ofField_eq
    (named : validator.catalogue.NamesFields)
    (reported : validator.MayReport record report)
    (name : String) :
    report.ofField name = validator.errorsFor record name :=
  ((validator.mayReport_iff_reportsBlocks record report).1 reported).ofField_eq named name

/-- Where predicates name their field, two reports on a record have the same errors under
each name, which is all that sorting by name looks at. -/
theorem MayReport.sortedByField_eq
    (named : validator.catalogue.NamesFields)
    (reported : validator.MayReport record report)
    (told : validator.MayReport record twin) :
    report.sortedByField = twin.sortedByField := by
  apply Report.ext
  apply sortedBy_eq
  intro name
  exact (reported.ofField_eq named name).trans (told.ofField_eq named name).symm

end Reports

/-! ## The record -/

/-- Under these names a record is looked at: those of the fields with rules, and that of
the companion. -/
def LooksAt (name : String) : Prop :=
  validator.rules.rulesOf name ≠ [] ∨ name = validator.config.confirmationField

theorem validate_bind_congr
    {validator : Validator} {record other : DynamicRecord}
    {visited : List (String × List Rule)}
    (visits : visited.Perm validator.rules.entries)
    (agree : ∀ name, validator.LooksAt name → other.held name = record.held name) :
    validator.validate (other.bind visited) = validator.validate (record.bind visited) := by
  apply Report.ext
  rw [← map_snd_attributedErrors, ← map_snd_attributedErrors]
  congr 1
  apply List.flatMap_congr
  intro entry member
  have companion : (other.bind visited).companion validator.config.confirmationField =
      (record.bind visited).companion validator.config.confirmationField := by
    rw [DynamicRecord.companion_eq, DynamicRecord.companion_eq, agree _ (.inr rfl)]
  obtain ⟨name, rules⟩ := entry
  rw [companion]
  by_cases unruled : rules = []
  · rw [unruled]
    rfl
  · have ruled : rules = validator.rules.rulesOf name :=
      congrArg Prod.snd (RuleBook.eq_rulesOf_of_mem (visits.mem_iff.1 member))
    rw [agree name (.inl (ruled ▸ unruled))]

/-- **Neither the order of the visit nor unrelated data shows in a report.** Visit the
fields of a dynamic record in any two orders. The reports are rearrangements of each
other; each consists of the errors that come from the fields, one block for each field
and inside each in the order of its rules; and sorted by the field that they come from,
with the order inside each kept, the errors are the same. Where predicates name the field
they are asked about, as the built-in ones do, this is the field that an error bears, so
that sorting by it makes the reports equal. A report only depends on what the record
holds for the fields with rules and for the companion: anything else can be added,
removed or changed, and a field that the record does not have may as well be null. -/
theorem reports_independent_of_visit_and_unrelated_data
    (validator : Validator)
    (record : DynamicRecord)
    {first second : List (String × List Rule)}
    (firstVisits : first.Perm validator.rules.entries)
    (secondVisits : second.Perm validator.rules.entries) :
    let earlier := validator.validate (record.bind first)
    let later := validator.validate (record.bind second)
    earlier.errors.Perm later.errors ∧
    (validator.attributedErrors record first).map Prod.snd = earlier.errors ∧
    (∀ name, ∃ before after : List (String × FieldError),
      validator.attributedErrors record first =
        before ++ (validator.errorsFor record name).map (Prod.mk name) ++ after ∧
      ∀ item ∈ before ++ after, item.1 ≠ name) ∧
    sortedBy Prod.fst (validator.attributedErrors record first) =
      sortedBy Prod.fst (validator.attributedErrors record second) ∧
    (validator.catalogue.NamesFields →
      (∀ item ∈ validator.attributedErrors record first, item.2.field = item.1) ∧
      earlier.sortedByField = later.sortedByField) ∧
    (∀ other : DynamicRecord,
      (∀ name, validator.LooksAt name → other.held name = record.held name) →
        validator.validate (other.bind first) = earlier) ∧
    (∀ name,
      record.get? name = none →
        validator.validate (DynamicRecord.bind (record.insert name .null) first) = earlier) := by
  intro earlier later
  have rearranged : first.Perm second := firstVisits.trans secondVisits.symm
  have listed := map_snd_attributedErrors validator record
  refine ⟨?_, listed first, attributedErrors_between record firstVisits, ?_, ?_, ?_, ?_⟩
  · rw [← listed first, ← listed second]
    exact (attributedErrors_perm record rearranged).map _
  · apply sortedBy_eq
    intro name
    rw [itemsOf_attributedErrors record firstVisits, itemsOf_attributedErrors record secondVisits]
  · intro named
    constructor
    · intro item member
      obtain ⟨entry, -, held⟩ := List.mem_flatMap.1 member
      obtain ⟨error, led, rfl⟩ := List.mem_map.1 held
      exact named.field_of_mem_errorsOf led
    · exact MayReport.sortedByField_eq named ⟨first, firstVisits, rfl⟩ ⟨second, secondVisits, rfl⟩
  · exact fun other => validate_bind_congr firstVisits
  · intro name absent
    apply validate_bind_congr firstVisits
    intro other _
    exact DynamicRecord.held_insert_null absent other

/-- The rules for posts. -/
def postRules : List Registration :=
  [.batch "Title" "required|max:2", .batch "Body" "required"]

def postValidator : Validator :=
  { Validator.default with rules := RuleBook.registerAll Table.empty postRules }

/-- A post without body, and with an entry that has no rules. -/
def post (author : Value) : DynamicRecord :=
  Table.ofList [("Title", .text "asda"), ("Author", author)]

theorem not_postValidator_looksAt_author : ¬ postValidator.LooksAt "Author" := by
  have unruled : postValidator.rules.rulesOf "Author" = [] := by
    show (RuleBook.registerAll Table.empty postRules).rulesOf "Author" = []
    rw [RuleBook.rulesOf_registerAll, Registration.rulesFor_of_absent (by decide)]
    rfl
  intro looked
  cases looked with
  | inl ruled => exact ruled unruled
  | inr companion => exact absurd companion (by decide)

theorem post_held_eq (author other : Value) {name : String} (elsewhere : name ≠ "Author") :
    (post author).held name = (post other).held name := by
  unfold DynamicRecord.held post
  rw [Table.get?_ofList (by simp), Table.get?_ofList (by simp)]
  simp only [lookup_cons_ite, if_neg elsewhere]

/-- Two orders of the visit, another author, and a body that is null. -/
theorem post_reports_agree :
    let visits := postValidator.rules.entries
    let record := post (.text "Ada")
    let report := postValidator.validate (record.bind visits)
    visits.Perm visits ∧ visits.reverse.Perm visits ∧ postValidator.catalogue.NamesFields ∧
    report.sortedByField = (postValidator.validate (record.bind visits.reverse)).sortedByField ∧
    (∀ name, postValidator.LooksAt name → (post .null).held name = record.held name) ∧
    postValidator.validate ((post .null).bind visits) = report ∧
    record.get? "Body" = none ∧
    postValidator.validate (DynamicRecord.bind (record.insert "Body" .null) visits) = report := by
  intro visits record report
  have reversed : visits.reverse.Perm visits := List.reverse_perm visits
  have named : postValidator.catalogue.NamesFields := Catalogue.builtIn_namesFields _ _
  have agree : ∀ name,
      postValidator.LooksAt name → (post .null).held name = record.held name := by
    intro name looked
    apply post_held_eq
    rintro rfl
    exact not_postValidator_looksAt_author looked
  have absent : record.get? "Body" = none := rfl
  obtain ⟨-, -, -, -, sorted, unrelated, null⟩ :=
    reports_independent_of_visit_and_unrelated_data postValidator record (.refl _) reversed
  exact ⟨.refl _, reversed, named, (sorted named).2, agree, unrelated _ agree, absent,
    null "Body" absent⟩

end Validator

end Fieldwise
