import Fieldwise.Proofs.Rule.Padding
import Fieldwise.Proofs.Text.Order

/-!
Contract: the summary of a rule book, and the rules that the book holds.

Owns: the listing and the count of the fields of a book, registrations that bring no rule,
and the condition under which the summary of a book speaks of the fields that have rules.

Does **not** own: the rules that a field has after registrations (`Fieldwise.Proofs.Book`).

The summary looks at which fields are present, not at their rules. A registration makes its
field present even if it brings no rule, and then the two differ.
-/

set_option autoImplicit false

namespace Fieldwise

/-! ## Registrations without a rule -/

namespace Registration

/-- A registration of a specification that is made of bars and blanks. -/
inductive IsVoid : Registration → Prop where
  | batch {field spec : String}
      (void : ∀ char ∈ spec.toList, char = '|' ∨ Text.isBlank char = true) :
      IsVoid (.batch field spec)

theorem rules_eq_nil_iff (registration : Registration) :
    registration.rules = [] ↔ registration.IsVoid := by
  cases registration with
  | single field rule => exact ⟨nofun, nofun⟩
  | batch field spec =>
      rw [rules, Rule.parseSpec_eq_nil_iff]
      constructor
      · exact .batch
      · rintro ⟨void⟩
        exact void

theorem rulesFor_ne_nil_iff (name : String) (registrations : List Registration) :
    rulesFor name registrations ≠ [] ↔
      ∃ registration ∈ registrations, registration.field = name ∧ ¬ registration.IsVoid := by
  rw [rulesFor, ne_eq, List.flatMap_eq_nil_iff, not_forall]
  simp only [ite_eq_right_iff, rules_eq_nil_iff, Classical.not_imp]

end Registration

namespace RuleBook

/-! ## The summary -/

theorem mem_fields_iff (book : RuleBook) (name : String) : name ∈ book.fields ↔ name ∈ book.keys :=
  (Text.ascending_perm book.keys).mem_iff

/-- The fields are listed in ascending order, none of them twice. -/
theorem fields_strictly (book : RuleBook) : book.fields.Pairwise (· < ·) :=
  Text.ascending_strictly book.nodup

theorem size_eq_length_fields (book : RuleBook) : book.size = book.fields.length := by
  rw [fields, (Text.ascending_perm book.keys).length_eq, Table.keys, List.length_map, Table.size]

theorem size_eq_card (book : RuleBook) : book.size = book.keys.toFinset.card := by
  rw [Table.keys, List.toFinset_card_of_nodup book.nodup, List.length_map, Table.size]

theorem isEmpty_iff (book : RuleBook) : book.isEmpty = true ↔ ∀ name, name ∉ book.keys := by
  rw [isEmpty, List.isEmpty_iff, ← List.eq_nil_iff_forall_not_mem, Table.keys, List.map_eq_nil_iff]

/-- Only fields that are present have rules. -/
theorem mem_keys_of_rulesOf_ne_nil
    {book : RuleBook} {name : String}
    (ruled : book.rulesOf name ≠ []) :
    name ∈ book.keys := by
  by_contra absent
  rw [rulesOf, (book.get?_eq_none_iff name).2 absent] at ruled
  exact ruled rfl

/-! ## Rules in the summary -/

/-- The summary of a book speaks of rules: the book is empty if no field has a rule, and the
fields that are counted and listed are those with at least one. -/
structure SummaryReportsRules (book : RuleBook) : Prop where
  isEmpty : book.isEmpty = true ↔ ∀ name, book.rulesOf name = []
  size : ∃ names : Finset String,
    (∀ name, name ∈ names ↔ book.rulesOf name ≠ []) ∧ book.size = names.card
  mem_fields : ∀ name, name ∈ book.fields ↔ book.rulesOf name ≠ []
  ascends : book.fields.Pairwise (· < ·)

theorem summaryReportsRules_iff (book : RuleBook) :
    book.SummaryReportsRules ↔ ∀ name ∈ book.keys, book.rulesOf name ≠ [] := by
  constructor
  · intro reports name present
    exact (reports.mem_fields name).1 ((book.mem_fields_iff name).2 present)
  · intro ruled
    have present (name : String) : name ∈ book.keys ↔ book.rulesOf name ≠ [] :=
      ⟨ruled name, mem_keys_of_rulesOf_ne_nil⟩
    constructor
    · rw [isEmpty_iff]
      exact forall_congr' fun name => (not_congr (present name)).trans not_not
    · exact ⟨book.keys.toFinset, fun name => List.mem_toFinset.trans (present name),
        book.size_eq_card⟩
    · exact fun name => (book.mem_fields_iff name).trans (present name)
    · exact book.fields_strictly

/-! ## After registrations -/

theorem mem_keys_registerAll_empty (registrations : List Registration) (name : String) :
    name ∈ (registerAll Table.empty registrations).keys ↔
      ∃ registration ∈ registrations, registration.field = name := by
  rw [mem_keys_registerAll, List.mem_map]
  exact or_iff_right List.not_mem_nil

theorem rulesOf_registerAll_empty (registrations : List Registration) (name : String) :
    (registerAll Table.empty registrations).rulesOf name =
      Registration.rulesFor name registrations :=
  rulesOf_registerAll Table.empty registrations name

/-- **The summary of a book reports the fields that were named, and rules where each of
them has one.** After any registrations a book is empty exactly if there were none, and it
counts and lists in ascending order, none of them twice, exactly the fields that some
registration named. It is empty exactly if no field has a rule, and counts and lists
exactly the fields with at least one, if and only if every field that was named was also
named by a registration other than that of a specification made of bars and blanks. -/
theorem summary_reports_named_fields (registrations : List Registration) :
    let book := registerAll Table.empty registrations
    (book.isEmpty = true ↔ registrations = []) ∧
    book.size = book.fields.length ∧
    book.fields.Pairwise (· < ·) ∧
    (∀ name, name ∈ book.fields ↔
      ∃ registration ∈ registrations, registration.field = name) ∧
    (book.SummaryReportsRules ↔
      ∀ registration ∈ registrations,
        ∃ other ∈ registrations, other.field = registration.field ∧ ¬ other.IsVoid) := by
  intro book
  refine ⟨?_, book.size_eq_length_fields, book.fields_strictly, ?_, ?_⟩
  · rw [isEmpty_iff]
    simp only [book, mem_keys_registerAll_empty]
    rw [List.eq_nil_iff_forall_not_mem]
    constructor
    · intro absent registration member
      exact absent registration.field ⟨registration, member, rfl⟩
    · rintro none name ⟨registration, member, -⟩
      exact none registration member
  · intro name
    rw [mem_fields_iff]
    exact mem_keys_registerAll_empty registrations name
  · rw [summaryReportsRules_iff]
    simp only [book, mem_keys_registerAll_empty, rulesOf_registerAll_empty,
      Registration.rulesFor_ne_nil_iff]
    constructor
    · intro ruled registration member
      exact ruled registration.field ⟨registration, member, rfl⟩
    · rintro ruled _ ⟨registration, member, rfl⟩
      exact ruled registration member

/-- A field is present after the registration of an empty specification, and the summary
counts and lists it, although no field has a rule. -/
theorem empty_specification_is_counted :
    let book := registerAll Table.empty [.batch "Title" ""]
    (∀ name, book.rulesOf name = []) ∧
    book.isEmpty = false ∧ book.size = 1 ∧ book.fields = ["Title"] ∧
    ¬ book.SummaryReportsRules := by
  intro book
  have unruled (name : String) : book.rulesOf name = [] := by
    by_contra ruled
    rw [rulesOf_registerAll_empty, ← ne_eq, Registration.rulesFor_ne_nil_iff] at ruled
    obtain ⟨registration, member, -, brings⟩ := ruled
    obtain rfl := List.mem_singleton.1 member
    exact brings (.batch nofun)
  refine ⟨unruled, rfl, rfl, List.mergeSort_singleton "Title", ?_⟩
  rw [summaryReportsRules_iff]
  intro ruled
  exact ruled "Title" List.mem_cons_self (unruled "Title")

end RuleBook

end Fieldwise
