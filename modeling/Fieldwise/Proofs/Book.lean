import Fieldwise.Proofs.Table
import Fieldwise.Rule.Book

/-!
Contract: rule books after any number of registrations.

Owns: the rules that a book holds for a field, the rules and the fields of a book
after a list of registrations, and books with the same rules.

Does **not** own: one registration (`Fieldwise.Rule.Book`).

A registration appends, so that the rules of a field after a list of registrations
are those from before, followed by those of the registrations that name the field.
-/

set_option autoImplicit false

namespace Fieldwise

/-- The rules that registrations contribute to a field, in their order. -/
def Registration.rulesFor (name : String) (registrations : List Registration) : List Rule :=
  registrations.flatMap fun registration =>
    if registration.field = name then registration.rules else []

theorem Registration.rulesFor_cons
    (name : String)
    (registration : Registration)
    (rest : List Registration) :
    rulesFor name (registration :: rest) =
      (if registration.field = name then registration.rules else []) ++ rulesFor name rest :=
  List.flatMap_cons

theorem Registration.rulesFor_of_absent
    {name : String} {registrations : List Registration}
    (absent : name ∉ registrations.map Registration.field) :
    rulesFor name registrations = [] := by
  apply List.flatMap_eq_nil_iff.2
  intro registration member
  apply if_neg
  rintro rfl
  exact absent (List.mem_map_of_mem member)

namespace RuleBook

/-- The rules of a field, none where the field is not present. -/
def rulesOf (book : RuleBook) (name : String) : List Rule :=
  (book.get? name).getD []

theorem rulesOf_register (book : RuleBook) (registration : Registration) (name : String) :
    (book.register registration).rulesOf name =
      book.rulesOf name ++ if registration.field = name then registration.rules else [] := by
  unfold rulesOf
  rw [get?_register]
  by_cases named : registration.field = name
  · subst named
    simp
  · rw [if_neg (Ne.symm named), if_neg named, List.append_nil]

theorem rulesOf_registerAll
    (book : RuleBook)
    (registrations : List Registration)
    (name : String) :
    (book.registerAll registrations).rulesOf name =
      book.rulesOf name ++ Registration.rulesFor name registrations := by
  unfold registerAll
  induction registrations generalizing book with
  | nil => simp [Registration.rulesFor]
  | cons registration rest inductionHypothesis =>
      rw [List.foldl_cons, inductionHypothesis, rulesOf_register, List.append_assoc,
        Registration.rulesFor_cons]

theorem mem_keys_register (book : RuleBook) (registration : Registration) (name : String) :
    name ∈ (book.register registration).keys ↔
      name ∈ book.keys ∨ registration.field = name := by
  rw [Table.mem_keys_iff, Table.mem_keys_iff, get?_register]
  by_cases named : name = registration.field
  · simp [named]
  · simp [named, Ne.symm named]

theorem mem_keys_registerAll
    (book : RuleBook)
    (registrations : List Registration)
    (name : String) :
    name ∈ (book.registerAll registrations).keys ↔
      name ∈ book.keys ∨ name ∈ registrations.map Registration.field := by
  unfold registerAll
  induction registrations generalizing book with
  | nil => simp
  | cons registration rest inductionHypothesis =>
      rw [List.foldl_cons, inductionHypothesis, mem_keys_register, List.map_cons, List.mem_cons,
        or_assoc, @eq_comm _ name]

theorem registerAll_append
    (book : RuleBook)
    (earlier later : List Registration) :
    book.registerAll (earlier ++ later) = (book.registerAll earlier).registerAll later :=
  List.foldl_append

theorem get?_registerAll_of_absent
    (book : RuleBook)
    {registrations : List Registration} {name : String}
    (absent : name ∉ registrations.map Registration.field) :
    (book.registerAll registrations).get? name = book.get? name := by
  unfold registerAll
  induction registrations generalizing book with
  | nil => rfl
  | cons registration rest inductionHypothesis =>
      rw [List.map_cons, List.mem_cons, not_or] at absent
      obtain ⟨other, absentRest⟩ := absent
      rw [List.foldl_cons, inductionHypothesis _ absentRest, get?_register, if_neg other]

/-- A field has what it had and what the registrations that name it contribute. Without
such a registration it is present only if it was before. -/
theorem get?_registerAll
    (book : RuleBook)
    (registrations : List Registration)
    (name : String) :
    (book.registerAll registrations).get? name =
      if name ∈ registrations.map Registration.field then
        some (book.rulesOf name ++ Registration.rulesFor name registrations)
      else book.get? name := by
  by_cases named : name ∈ registrations.map Registration.field
  · have present : name ∈ (book.registerAll registrations).keys :=
      (book.mem_keys_registerAll registrations name).2 (.inr named)
    obtain ⟨rules, found⟩ := Option.isSome_iff_exists.1 ((Table.mem_keys_iff _ _).1 present)
    rw [if_pos named, ← book.rulesOf_registerAll, rulesOf, found]
    rfl
  · rw [if_neg named, book.get?_registerAll_of_absent named]

/-- The entries of a book are its fields, each with its rules. -/
theorem eq_rulesOf_of_mem
    {book : RuleBook} {entry : String × List Rule}
    (member : entry ∈ book.entries) :
    entry = (entry.1, book.rulesOf entry.1) := by
  have held : book.get? entry.1 = some entry.2 := (book.get?_eq_some_iff _ _).2 member
  rw [rulesOf, held]
  rfl

/-- Entries of a book can be told from their names. -/
theorem eq_map_rulesOf
    {book : RuleBook} {visited : List (String × List Rule)}
    (subset : ∀ entry ∈ visited, entry ∈ book.entries) :
    visited = (visited.map Prod.fst).map fun name => (name, book.rulesOf name) := by
  rw [List.map_map]
  calc
    visited = visited.map id := (List.map_id visited).symm
    _ = visited.map _ :=
      List.map_congr_left fun entry member => eq_rulesOf_of_mem (subset entry member)

/-- A visit of all entries in some order is a visit of all fields in some order. -/
theorem perm_entries_iff (book : RuleBook) (visited : List (String × List Rule)) :
    visited.Perm book.entries ↔
      ∃ names : List String,
        names.Perm book.keys ∧ visited = names.map fun name => (name, book.rulesOf name) := by
  constructor
  · intro visits
    refine ⟨visited.map Prod.fst, visits.map Prod.fst, ?_⟩
    exact eq_map_rulesOf fun entry member => visits.mem_iff.1 member
  · intro listing
    rcases listing with ⟨names, visits, rfl⟩
    have all : book.entries = book.keys.map fun name => (name, book.rulesOf name) :=
      eq_map_rulesOf fun entry member => member
    rw [all]
    exact visits.map _

/-! ## Books with the same rules -/

/-- Two books with the same rules for every field, whatever order the fields are in. -/
def SameRules (first second : RuleBook) : Prop :=
  ∀ name, first.get? name = second.get? name

theorem SameRules.register
    {first second : RuleBook}
    (same : first.SameRules second)
    (registration : Registration) :
    (first.register registration).SameRules (second.register registration) := by
  intro name
  rw [get?_register, get?_register, same name, same registration.field]

/-- Registrations of different fields may come in either order. -/
theorem register_comm
    (book : RuleBook)
    {first second : Registration}
    (apart : first.field ≠ second.field) :
    ((book.register first).register second).SameRules
      ((book.register second).register first) := by
  intro name
  simp only [get?_register, if_neg apart, if_neg apart.symm]
  by_cases named : name = first.field
  · rw [if_pos named, if_neg (named ▸ apart), if_pos named]
  · rw [if_neg named, if_neg named]

end RuleBook

end Fieldwise
