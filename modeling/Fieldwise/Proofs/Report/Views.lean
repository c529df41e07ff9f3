import Mathlib.Algebra.BigOperators.Group.Finset.Basic
import Fieldwise.Proofs.Text.Order

/-!
Contract: reports as ordered collections of errors.

Owns: the histories by which reports come about, the errors that a report then holds, and
the agreement of its views by field, its counts and its result.

Does **not** own: which errors a validation adds (`Fieldwise.Proofs.Engine.Walk`).

A history matters to a report only by what it inserted, in which order. The views are then
laws of a list: the errors of a field are its greatest part on that field, and the fields
cut the list into such parts.
-/

set_option autoImplicit false

namespace Fieldwise

namespace Report

/-! ## Histories -/

/-- How a report comes about. A report that is merged into another has a history of its
own. -/
inductive History where
  | empty
  | ofError (error : FieldError)
  | add (earlier : History) (error : FieldError)
  | addGeneral (earlier : History) (field message : String)
  | merge (first second : History)

namespace History

def report : History → Report
  | empty => Report.empty
  | ofError error => Report.ofError error
  | add earlier error => earlier.report.add error
  | addGeneral earlier field message => earlier.report.addGeneral field message
  | merge first second => first.report.merge second.report

/-- The errors that were inserted, in the order in which they stand to each other: what is
merged comes after all that was there before. -/
def insertions : History → List FieldError
  | empty => []
  | ofError error => [error]
  | add earlier error => earlier.insertions ++ [error]
  | addGeneral earlier field message =>
      earlier.insertions ++ [FieldError.general field message]
  | merge first second => first.insertions ++ second.insertions

theorem errors_report (history : History) : history.report.errors = history.insertions := by
  induction history with
  | empty => rfl
  | ofError error => rfl
  | add earlier error inductionHypothesis =>
      rw [report, insertions, Report.add, inductionHypothesis]
  | addGeneral earlier field message inductionHypothesis =>
      rw [report, insertions, Report.addGeneral, Report.add, inductionHypothesis]
  | merge first second firstHypothesis secondHypothesis =>
      rw [report, insertions, Report.merge, firstHypothesis, secondHypothesis]

end History

/-! ## The errors of a field -/

/-- A part of a list of errors, in their order: all errors on one field, and no other. -/
structure IsPartOn (name : String) (part errors : List FieldError) : Prop where
  sublist : part.Sublist errors
  field_eq : ∀ error ∈ part, error.field = name
  /-- No error on the field is left out, however often it stands there. -/
  greatest : ∀ other : List FieldError,
    other.Sublist errors → (∀ error ∈ other, error.field = name) → other.Sublist part

section Views

variable (report : Report)

theorem isPartOn_ofField (name : String) :
    IsPartOn name (report.ofField name) report.errors where
  sublist := List.filter_sublist
  field_eq error member := by simpa using List.of_mem_filter member
  greatest other within named := by
    have whole : other.filter (fun error => error.field = name) = other := by
      rw [List.filter_eq_self]
      exact fun error member => decide_eq_true (named error member)
    rw [← whole]
    exact within.filter _

theorem hasField_iff (name : String) :
    report.hasField name = true ↔ report.ofField name ≠ [] := by
  rw [hasField, ofField, List.any_eq_true, ne_eq, List.filter_eq_nil_iff]
  simp

/-! ## Counts -/

/-- The names of the fields with errors. -/
def names : Finset String :=
  (report.errors.map FieldError.field).toFinset

theorem mem_names_iff (name : String) : name ∈ report.names ↔ report.hasField name = true := by
  rw [names, List.mem_toFinset, List.mem_map, hasField, List.any_eq_true]
  simp

theorem fieldCount_eq_card : report.fieldCount = report.names.card :=
  Text.length_eraseReps_ascending _

theorem length_ofField (name : String) :
    (report.ofField name).length = (report.errors.map FieldError.field).count name := by
  rw [ofField, List.count_eq_countP, List.countP_map, List.countP_eq_length_filter]
  rfl

/-- Each error stands in the part of one field. -/
theorem size_eq_sum : report.size = ∑ name ∈ report.names, (report.ofField name).length := by
  simp only [length_ofField]
  rw [names, List.sum_toFinset_count_eq_length, List.length_map, size]

theorem fieldCount_le_size : report.fieldCount ≤ report.size := by
  rw [fieldCount_eq_card]
  exact (List.toFinset_card_le _).trans_eq (List.length_map _)

variable {report}

theorem fieldCount_eq_of_perm {other : Report} (reordered : other.errors.Perm report.errors) :
    other.fieldCount = report.fieldCount := by
  rw [fieldCount_eq_card, fieldCount_eq_card, names, names,
    List.toFinset_eq_of_perm _ _ (reordered.map FieldError.field)]

end Views

/-! ## Result -/

theorem toResult_eq_ok_iff (report : Report) :
    report.toResult = .ok () ↔ report.errors = [] := by
  rw [toResult, isEmpty, ← List.isEmpty_iff]
  cases report.errors.isEmpty <;> simp

theorem toResult_eq_error_iff (report returned : Report) :
    report.toResult = .error returned ↔ report.errors ≠ [] ∧ returned = report := by
  rw [toResult, isEmpty, ne_eq, ← List.isEmpty_iff]
  cases report.errors.isEmpty <;> simp [eq_comm]

/-- **A report keeps its errors in the order of insertion, and its views agree.** However a
report comes about, it holds the errors that were inserted, in that order, and what is
merged into it comes after them. The errors of a field are the part of the list on that
field; there is one exactly if the field has errors; and the part of a merged report is
that of the one report, then that of the other. The number of fields is that of the
distinct names with errors, whatever the order of the errors, and never exceeds the number
of errors, which is the sum over these names. The result is a success exactly without
errors, and else it returns the report itself. -/
theorem History.views_agree (history : History) :
    let report := history.report
    report.errors = history.insertions ∧
    (∀ other : Report,
      (report.merge other).errors = report.errors ++ other.errors ∧
      ∀ name, (report.merge other).ofField name = report.ofField name ++ other.ofField name) ∧
    (∀ name,
      IsPartOn name (report.ofField name) report.errors ∧
      (report.hasField name = true ↔ report.ofField name ≠ [])) ∧
    (∃ names : Finset String,
      (∀ name, name ∈ names ↔ report.hasField name = true) ∧
      report.fieldCount = names.card ∧
      report.size = ∑ name ∈ names, (report.ofField name).length) ∧
    report.fieldCount ≤ report.size ∧
    (∀ other : Report,
      other.errors.Perm report.errors → other.fieldCount = report.fieldCount) ∧
    (report.toResult = .ok () ↔ report.errors = []) ∧
    (∀ returned : Report,
      report.toResult = .error returned ↔ report.errors ≠ [] ∧ returned = report) := by
  intro report
  refine ⟨history.errors_report, ?_, ?_, ?_, report.fieldCount_le_size,
    fun _ => fieldCount_eq_of_perm, report.toResult_eq_ok_iff, report.toResult_eq_error_iff⟩
  · intro other
    exact ⟨rfl, ofField_merge report other⟩
  · intro name
    exact ⟨report.isPartOn_ofField name, report.hasField_iff name⟩
  · exact ⟨report.names, report.mem_names_iff, report.fieldCount_eq_card, report.size_eq_sum⟩

/-- Three errors on two fields, that of one field between those of the other. -/
def interleaved : History :=
  .merge (.addGeneral (.ofError (.general "email" "Invalid format")) "age" "Must be positive")
    (.addGeneral .empty "email" "Already exists")

theorem interleaved_reordered :
    let report := interleaved.report
    report.errors.reverse.Perm report.errors ∧
    (⟨report.errors.reverse⟩ : Report).fieldCount = report.fieldCount ∧
    report.fieldCount = 2 := by
  intro report
  have reordered : report.errors.reverse.Perm report.errors := List.reverse_perm _
  obtain ⟨-, -, -, -, -, countUnchanged, -, -⟩ := interleaved.views_agree
  refine ⟨reordered, countUnchanged ⟨report.errors.reverse⟩ reordered, ?_⟩
  rw [fieldCount_eq_card]
  rfl

end Report

end Fieldwise
