import Fieldwise.Proofs.Rule.Padding

/-!
Contract: the sources of rules that call themselves empty, and the fields that are dropped
before validation because of it.

Owns: which sources have no rule, which of those call themselves empty, and the condition
under which preparation leaves the fields with a rule and no others.

Does **not** own: that a field that is dropped costs no error
(`Fieldwise.Proofs.Engine.Walk`).

A source is asked whether it is empty before its rules are read. A specification answers by
its characters then: it is empty if it is blank. One of bars only is not blank and has no
rule nevertheless, so that its field is prepared with nothing to be evaluated.
-/

set_option autoImplicit false

namespace Fieldwise

namespace RuleSource

/-- A specification that is made of bars and blanks, with one bar or more. -/
inductive HoldsBarsOnly : RuleSource → Prop where
  | declared {spec : String}
      (barred : '|' ∈ spec.toList)
      (void : ∀ char ∈ spec.toList, char = '|' ∨ Text.isBlank char = true) :
      HoldsBarsOnly (.declared spec)

theorem isEmpty_declared_iff (spec : String) :
    (declared spec).isEmpty = true ↔ ∀ char ∈ spec.toList, Text.isBlank char = true :=
  List.all_eq_true

/-- A bar is no blank, so that a specification with a bar is not empty. -/
theorem HoldsBarsOnly.isEmpty_eq_false {source : RuleSource} (bars : source.HoldsBarsOnly) :
    source.isEmpty = false := by
  obtain @⟨spec, barred, -⟩ := bars
  rw [← Bool.not_eq_true, isEmpty_declared_iff]
  intro blank
  exact absurd (blank '|' barred) (by decide)

/-- A source without a rule is empty or holds bars only. -/
theorem rules_eq_nil_iff (source : RuleSource) :
    source.rules = [] ↔ source.isEmpty = true ∨ source.HoldsBarsOnly := by
  constructor
  · intro unruled
    cases source with
    | registered rules => exact .inl (List.isEmpty_iff.2 unruled)
    | declared spec =>
        have void := (Rule.parseSpec_eq_nil_iff spec.toList).1 unruled
        by_cases barred : '|' ∈ spec.toList
        · exact .inr (.declared barred void)
        · refine .inl ((isEmpty_declared_iff spec).2 ?_)
          intro char member
          exact (void char member).resolve_left (ne_of_mem_of_not_mem member barred)
  · rintro (empty | bars)
    · exact rules_eq_nil_of_isEmpty empty
    · obtain @⟨spec, -, void⟩ := bars
      exact (Rule.parseSpec_eq_nil_iff spec.toList).2 void

theorem isEmpty_iff (source : RuleSource) :
    source.isEmpty = true ↔ source.rules = [] ∧ ¬ source.HoldsBarsOnly := by
  rw [rules_eq_nil_iff]
  constructor
  · intro empty
    refine ⟨.inl empty, fun bars => ?_⟩
    rw [bars.isEmpty_eq_false] at empty
    cases empty
  · rintro ⟨unruled, other⟩
    exact unruled.resolve_right other

end RuleSource

/-! ## Preparation -/

/-- Is there a rule to evaluate the field by? -/
def PreparedField.isRuled (field : PreparedField) : Bool :=
  !field.rules.isEmpty

theorem PreparedField.isRuled_prepare_iff (field : Field) :
    isRuled field.prepare = true ↔ field.rules.rules ≠ [] := by
  simp [isRuled, Field.prepare]

namespace FieldSource

theorem mem_ruledFields_iff (source : FieldSource) (field : Field) :
    field ∈ source.ruledFields ↔ field ∈ source.fields ∧ field.rules.isEmpty = false := by
  rw [ruledFields, List.mem_filter, Bool.not_eq_true']

/-- The fields with a rule, as they are prepared. -/
def withRules (source : FieldSource) : List PreparedField :=
  (source.fields.map Field.prepare).filter PreparedField.isRuled

/-- No field with a rule is dropped. -/
theorem filter_isRuled_prepared (source : FieldSource) :
    source.prepared.filter PreparedField.isRuled = source.withRules := by
  rw [prepared, ruledFields, withRules, List.filter_map, List.filter_map, List.filter_filter]
  congr 1
  apply List.filter_congr
  intro field _
  by_cases ruled : PreparedField.isRuled field.prepare = true
  · have holds := (PreparedField.isRuled_prepare_iff field).1 ruled
    have written := eq_false_of_ne_true (mt RuleSource.rules_eq_nil_of_isEmpty holds)
    simp [ruled, written]
  · simp [eq_false_of_ne_true ruled]

/-- A field of bars only is prepared, and nothing else makes a field be prepared without a
rule. -/
theorem prepared_eq_withRules_iff (source : FieldSource) :
    source.prepared = source.withRules ↔
      ∀ field ∈ source.fields, ¬ field.rules.HoldsBarsOnly := by
  constructor
  · intro same field member bars
    have kept : field ∈ source.ruledFields :=
      (source.mem_ruledFields_iff field).2 ⟨member, bars.isEmpty_eq_false⟩
    have prepared : field.prepare ∈ source.prepared := List.mem_map_of_mem kept
    rw [same] at prepared
    have ruled := (PreparedField.isRuled_prepare_iff field).1 (List.of_mem_filter prepared)
    exact ruled ((RuleSource.rules_eq_nil_iff _).2 (.inr bars))
  · intro unbarred
    rw [← filter_isRuled_prepared]
    refine (List.filter_eq_self.2 ?_).symm
    intro field prepared
    obtain ⟨origin, kept, rfl⟩ := List.mem_map.1 prepared
    obtain ⟨member, written⟩ := (source.mem_ruledFields_iff origin).1 kept
    rw [PreparedField.isRuled_prepare_iff, ne_eq, RuleSource.rules_eq_nil_iff, not_or, written]
    exact ⟨Bool.false_ne_true, unbarred origin member⟩

end FieldSource

/-- **The fields that are dropped have no rule, and the others have one unless they hold bars
only.** A source has no rule exactly if it is empty or holds bars only. So it calls itself
empty exactly when it has no rule if and only if it does not hold bars only. Preparation
drops no field with a rule, and it leaves the fields with a rule and no others if and only
if no field of the source holds bars only. -/
theorem FieldSource.prepared_fields_are_ruled (rules : RuleSource) (source : FieldSource) :
    (rules.rules = [] ↔ rules.isEmpty = true ∨ rules.HoldsBarsOnly) ∧
    ((rules.isEmpty = true ↔ rules.rules = []) ↔ ¬ rules.HoldsBarsOnly) ∧
    source.prepared.filter PreparedField.isRuled = source.withRules ∧
    (source.prepared = source.withRules ↔
      ∀ field ∈ source.fields, ¬ field.rules.HoldsBarsOnly) := by
  refine ⟨rules.rules_eq_nil_iff, ?_, source.filter_isRuled_prepared,
    source.prepared_eq_withRules_iff⟩
  constructor
  · intro agrees bars
    have empty := agrees.2 (rules.rules_eq_nil_iff.2 (.inr bars))
    exact (rules.isEmpty_iff.1 empty).2 bars
  · intro other
    rw [rules.isEmpty_iff]
    exact and_iff_left other

/-- A specification of one bar has no rule and does not call itself empty, and its field is
prepared. -/
theorem FieldSource.single_bar_is_prepared :
    let bar : RuleSource := .declared "|"
    let source : FieldSource := ⟨[⟨"Note", .text "x", bar⟩], fun _ => none⟩
    bar.rules = [] ∧ bar.isEmpty = false ∧
    ¬ (bar.isEmpty = true ↔ bar.rules = []) ∧
    source.prepared = [⟨"Note", .text "x", []⟩] ∧ source.withRules = [] := by
  intro bar source
  have chars : "|".toList = ['|'] := by decide
  have bars : bar.HoldsBarsOnly := by
    constructor
    · rw [chars]
      exact List.mem_singleton_self '|'
    · rw [chars]
      exact fun char member => .inl (List.mem_singleton.1 member)
  have unruled : bar.rules = [] := bar.rules_eq_nil_iff.2 (.inr bars)
  have written : bar.isEmpty = false := bars.isEmpty_eq_false
  let field : PreparedField := ⟨"Note", .text "x", bar.rules⟩
  refine ⟨unruled, written, ?_, ?_, ?_⟩
  · rw [written]
    simp [unruled]
  · show [field] = _
    rw [← unruled]
  · show [field].filter PreparedField.isRuled = []
    simp [field, PreparedField.isRuled, unruled]

end Fieldwise
