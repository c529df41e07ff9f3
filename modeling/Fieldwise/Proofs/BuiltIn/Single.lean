import Fieldwise.Proofs.BuiltIn.Outcome

/-!
Contract: the report on one field with one built-in rule.

Owns: the errors of a field whose source holds one rule, and the choice between none and
one error that is left where the value and the parameter are of use to the rule, and that
the report on a field depends on the rules of its source only.

Does **not** own: the outcome of a rule in general (`Fieldwise.Proofs.BuiltIn.Outcome`).
-/

set_option autoImplicit false

namespace Fieldwise

variable [Libraries]

/-- Where the value and the parameter are of use to a rule, the value passes, or the rule
fails with the error of its keyword. -/
theorem BuiltInOutcome.of_met
    {reachability : Reachability} {timeout : Duration} {value : Value} {rule : Rule}
    {keyword : Keyword}
    (companion : Companion)
    (name : String)
    (kind : rule.kind = .builtIn keyword)
    (present : value ≠ .null)
    (fits : keyword.subject.Fits value)
    (met : keyword.need.Meets rule.parameter)
    (alone : keyword ≠ .confirmed) :
    let passes := keyword.Passes reachability timeout companion value rule.parameter
    (passes → BuiltInOutcome reachability timeout companion name value rule none) ∧
    (¬ passes →
      BuiltInOutcome reachability timeout companion name value rule
        (some
          (.about name rule keyword.name (Report.keywordMessage name keyword rule value)))) := by
  intro passes
  constructor
  · exact .passed kind present fits met
  · intro fails
    rw [keyword.name_eq_failureCode]
    exact .failed kind present fits met fails fun compared => absurd compared alone

namespace Validator

/-- The report on one field whose source holds one rule. -/
theorem errors_of_single
    {config : Config} {reachability : Reachability} {book : RuleBook}
    {lookup : String → Option Value} {name : String} {value : Value} {source : RuleSource}
    {rule : Rule} {outcome : Option FieldError}
    (reads : source.rules = [rule])
    (given : BuiltInOutcome reachability config.activeUrlTimeout
      ⟨config.confirmationField,
        (lookup config.confirmationField).filter fun held => !held.isNull⟩
      name value rule outcome) :
    let validator := Builder.assemble { config, reachability, predicates := [], rules := book }
    (validator.validate ⟨[⟨name, value, source⟩], lookup⟩).errors = outcome.toList := by
  intro validator
  rw [validator.validate_errors, List.flatMap_singleton, reads, Catalogue.errorsOf_singleton]
  exact congrArg Option.toList given.error?_eq

/-- A value of another type than a rule is about leads to the one error that says so,
whatever the parameter of the rule is. -/
theorem errors_of_mistyped
    (config : Config)
    (reachability : Reachability)
    (book : RuleBook)
    (lookup : String → Option Value)
    (name : String)
    {value : Value} {source : RuleSource} {rule : Rule} {keyword : Keyword} {shape : Shape}
    (reads : source.rules = [rule])
    (kind : rule.kind = .builtIn keyword)
    (subject : keyword.subject = shape)
    (present : value ≠ .null)
    (unfit : ¬ shape.Fits value) :
    let validator := Builder.assemble { config, reachability, predicates := [], rules := book }
    (validator.validate ⟨[⟨name, value, source⟩], lookup⟩).errors =
      [.about name rule "invalid_type" ((Fault.coercion shape value.typeName).describe name)] := by
  subst subject
  exact errors_of_single reads (.mistyped kind present unfit)

/-- A value of the right type under a rule whose parameter is of no use to it leads to the
one error that says so, whatever the value is. -/
theorem errors_of_misconfigured
    (config : Config)
    (reachability : Reachability)
    (book : RuleBook)
    (lookup : String → Option Value)
    (name : String)
    {value : Value} {source : RuleSource} {rule : Rule} {keyword : Keyword} {fault : Fault}
    (reads : source.rules = [rule])
    (kind : rule.kind = .builtIn keyword)
    (present : value ≠ .null)
    (fits : keyword.subject.Fits value)
    (refused : keyword.need.Refuses rule.kind rule.parameter fault) :
    let validator := Builder.assemble { config, reachability, predicates := [], rules := book }
    (validator.validate ⟨[⟨name, value, source⟩], lookup⟩).errors =
      [.about name rule "invalid_rule" (fault.describe name)] :=
  errors_of_single reads (.misconfigured kind present fits refused)

omit [Libraries] in
/-- The report on one field depends on the rules of its source, and not on how the source
holds them. -/
theorem errors_eq_of_rules_eq
    (validator : Validator)
    (lookup : String → Option Value)
    (name : String)
    (value : Value)
    {source other : RuleSource}
    (same : source.rules = other.rules) :
    (validator.validate ⟨[⟨name, value, source⟩], lookup⟩).errors =
      (validator.validate ⟨[⟨name, value, other⟩], lookup⟩).errors := by
  rw [validate_errors, validate_errors, List.flatMap_singleton, List.flatMap_singleton, same]
  rfl

/-- Where the value and the parameter are of use to the one rule that is read for a field,
there is no error exactly if the value passes, and the one error of the keyword exactly if
not. -/
theorem errors_of_reads
    (config : Config)
    (reachability : Reachability)
    (book : RuleBook)
    (lookup : String → Option Value)
    (name : String)
    {value : Value} {source : RuleSource} {rule : Rule} {keyword : Keyword} {holds : Prop}
    (reads : source.rules = [rule])
    (kind : rule.kind = .builtIn keyword)
    (present : value ≠ .null)
    (fits : keyword.subject.Fits value)
    (met : keyword.need.Meets rule.parameter)
    (alone : keyword ≠ .confirmed)
    (decides : ∀ companion : Companion,
      keyword.Passes reachability config.activeUrlTimeout companion value rule.parameter ↔
        holds) :
    let validator := Builder.assemble { config, reachability, predicates := [], rules := book }
    let errors := (validator.validate ⟨[⟨name, value, source⟩], lookup⟩).errors
    (errors = [] ↔ holds) ∧
    (errors =
        [.about name rule keyword.name (Report.keywordMessage name keyword rule value)] ↔
      ¬ holds) := by
  intro validator errors
  let companion : Companion :=
    ⟨config.confirmationField,
      (lookup config.confirmationField).filter fun held => !held.isNull⟩
  obtain ⟨passed, failed⟩ := BuiltInOutcome.of_met companion name kind present fits met alone
  by_cases passes : holds
  · have none : errors = [] := errors_of_single reads (passed ((decides companion).2 passes))
    simp [none, passes]
  · have one : errors = [_] := errors_of_single reads (failed (mt (decides companion).1 passes))
    simp [one, passes]

/-- The same for a rule that was registered. -/
theorem errors_of_met
    (config : Config)
    (reachability : Reachability)
    (book : RuleBook)
    (lookup : String → Option Value)
    (name : String)
    {value : Value} {rule : Rule} {keyword : Keyword} {holds : Prop}
    (kind : rule.kind = .builtIn keyword)
    (present : value ≠ .null)
    (fits : keyword.subject.Fits value)
    (met : keyword.need.Meets rule.parameter)
    (alone : keyword ≠ .confirmed)
    (decides : ∀ companion : Companion,
      keyword.Passes reachability config.activeUrlTimeout companion value rule.parameter ↔
        holds) :
    let validator := Builder.assemble { config, reachability, predicates := [], rules := book }
    let errors := (validator.validate ⟨[⟨name, value, .registered [rule]⟩], lookup⟩).errors
    (errors = [] ↔ holds) ∧
    (errors =
        [.about name rule keyword.name (Report.keywordMessage name keyword rule value)] ↔
      ¬ holds) :=
  errors_of_reads config reachability book lookup name rfl kind present fits met alone decides

/-- The report on a text under a rule that tests the text alone. -/
theorem errors_of_format
    (config : Config)
    (reachability : Reachability)
    (book : RuleBook)
    (lookup : String → Option Value)
    (name content : String)
    (parameter : Option Parameter)
    (keyword : Keyword)
    (test : List Char → Bool)
    (text : keyword.subject = .text)
    (free : keyword.need = .nothing)
    (decides : ∀ companion : Companion,
      keyword.Passes reachability config.activeUrlTimeout companion (.text content) parameter ↔
        test content.toList = true) :
    let validator := Builder.assemble { config, reachability, predicates := [], rules := book }
    let rule : Rule := ⟨.builtIn keyword, parameter⟩
    let errors :=
      (validator.validate ⟨[⟨name, .text content, .registered [rule]⟩], lookup⟩).errors
    (errors = [] ↔ test content.toList = true) ∧
    (errors =
        [.about name rule keyword.name
          (Report.keywordMessage name keyword rule (.text content))] ↔
      ¬ test content.toList = true) := by
  intro validator rule errors
  have fits : keyword.subject.Fits (.text content) := text ▸ .text content
  have met : keyword.need.Meets rule.parameter := free ▸ .nothing parameter
  have alone : keyword ≠ .confirmed := by
    rintro rfl
    cases text
  exact errors_of_met config reachability book lookup name rfl (by simp) fits met alone decides

end Validator

end Fieldwise
