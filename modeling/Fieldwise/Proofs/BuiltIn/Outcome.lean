import Fieldwise.Proofs.BuiltIn.Verdict
import Fieldwise.Proofs.Engine.Walk
import Fieldwise.Validator.Builder

/-!
Contract: the outcome of every rule where only the built-in predicates are
registered.

Owns: the catalogue of the built-in predicates as a function of the kind, the
outcome as a relation on the rule and the value alone, with whole errors, and the
proof that a validator reports exactly that outcome.

Does **not** own: the conditions of the verdicts (`Fieldwise.Proofs.BuiltIn.Verdict`).

The cases of the relation exclude each other in the order in which they stand: the
kind is looked at before null, null before the type, the type before the parameter,
and the parameter before the verdict. Each code stands in them as it is reported.
-/

set_option autoImplicit false

namespace Fieldwise

/-! ## Errors -/

/-- The error of a field under a code, with the parameter of the rule as context. -/
def FieldError.about (name : String) (rule : Rule) (code message : String) : FieldError :=
  { field := name, message, code, context := parameterContext rule }

/-- The code of a value that does not pass the rule of a keyword. -/
def Keyword.failureCode : Keyword → String
  | .required => "required"
  | .max => "max"
  | .min => "min"
  | .email => "email"
  | .url => "url"
  | .activeUrl => "active_url"
  | .ipFormat => "ipformat"
  | .date => "date"
  | .dateFormat => "dateFormat"
  | .between => "between"
  | .oneOf => "in"
  | .noneOf => "notIn"
  | .accepted => "accepted"
  | .size => "size"
  | .confirmed => "confirmed"
  | .doesntEndWith => "doesnt_end_with"
  | .doesntStartWith => "doesnt_start_with"
  | .macAddress => "macAddress"
  | .greater => "gt"
  | .less => "lt"
  | .atLeast => "gte"
  | .atMost => "lte"

theorem Keyword.name_eq_failureCode (keyword : Keyword) : keyword.name = keyword.failureCode := by
  cases keyword <;> rfl

theorem FieldError.ruleFailed_eq_about
    {rule : Rule} {keyword : Keyword}
    (kind : rule.kind = .builtIn keyword)
    (name : String)
    (value : Value) :
    ruleFailed name rule value =
      .about name rule keyword.failureCode (Report.keywordMessage name keyword rule value) := by
  simp only [ruleFailed, about, Report.failureMessage, kind, Kind.name,
    keyword.name_eq_failureCode]

theorem Predicate.appliesTo_of_ne_null
    (predicate : Predicate)
    {value : Value}
    (present : value ≠ .null) :
    predicate.AppliesTo value := by
  intro null
  exact absurd null present

theorem Predicate.failure_confirmed_of_absent
    {context : RuleContext}
    (absent : context.companion.value = none)
    (rule : Rule)
    (value : Value) :
    confirmed.failure rule value context =
      FieldError.confirmationMissing context.field context.companion.name := by
  simp [confirmed, Companion.isPresent, absent]

variable [Libraries]

/-! ## The built-in catalogue -/

namespace Catalogue

theorem builtIn_get?_keyword
    (reachability : Reachability)
    (timeout : Duration)
    (keyword : Keyword) :
    (builtIn reachability timeout).get? (.builtIn keyword) =
      some (Predicate.ofKeyword reachability timeout keyword) := by
  apply Table.get?_insertAll_eq_some
  · rw [List.map_map]
    exact Keyword.nodup_all.map fun left right same => Kind.builtIn.inj same
  · exact List.mem_map.2 ⟨keyword, keyword.mem_all, rfl⟩

theorem builtIn_get?_other
    (reachability : Reachability)
    (timeout : Duration)
    (name : String) :
    (builtIn reachability timeout).get? (.other name) = none := by
  refine (Table.get?_insertAll_of_absent Table.empty ?_).trans (Table.get?_empty _)
  intro entry member
  obtain ⟨keyword, -, rfl⟩ := List.mem_map.1 member
  simp

end Catalogue

namespace Predicate

variable (reachability : Reachability) (timeout : Duration)

theorem checksNull_ofKeyword (keyword : Keyword) :
    (ofKeyword reachability timeout keyword).checksNull = true ↔
      keyword = .required ∨ keyword = .accepted := by
  cases keyword <;> simp [ofKeyword, required, accepted, confirmed, activeUrl, format,
    sizeBound, comparison, between, oneOf, noneOf, doesntEndWith, doesntStartWith,
    dateFormat, ofTest, ofCheck]

theorem failure_ofKeyword
    {keyword : Keyword} {context : RuleContext}
    (compared : keyword = .confirmed → context.companion.value ≠ none)
    (rule : Rule)
    (value : Value) :
    (ofKeyword reachability timeout keyword).failure rule value context =
      FieldError.ruleFailed context.field rule value := by
  cases keyword with
  | confirmed =>
      have present : context.companion.isPresent = true :=
        Option.isSome_iff_ne_none.2 (compared rfl)
      simp [ofKeyword, confirmed, present, ruleFailure]
  | _ => rfl

end Predicate

/-! ## The outcome -/

/-- What a rule leads to where only the built-in predicates are registered. -/
inductive BuiltInOutcome
    (reachability : Reachability)
    (timeout : Duration)
    (companion : Companion)
    (name : String)
    (value : Value)
    (rule : Rule) :
    Option FieldError → Prop where
  /-- A kind made of a name is unknown, even of the name of a keyword. -/
  | unknown {kindName : String}
      (kind : rule.kind = .other kindName) :
      BuiltInOutcome reachability timeout companion name value rule
        (some (.about name rule "unknown_rule" ((Fault.unknownRule kindName).describe name)))
  /-- A value is required, and null is none. -/
  | nullMissing
      (kind : rule.kind = .builtIn .required)
      (null : value = .null) :
      BuiltInOutcome reachability timeout companion name value rule
        (some (.about name rule "required" ("The " ++ name ++ " field is required")))
  /-- An acceptance is required, and null is none. -/
  | nullUnaccepted
      (kind : rule.kind = .builtIn .accepted)
      (null : value = .null) :
      BuiltInOutcome reachability timeout companion name value rule
        (some (.about name rule "accepted" ("The " ++ name ++ " field must be accepted")))
  /-- The others pass over null, whatever the parameter is. -/
  | nullSkipped {keyword : Keyword}
      (kind : rule.kind = .builtIn keyword)
      (null : value = .null)
      (untested : keyword ≠ .required ∧ keyword ≠ .accepted) :
      BuiltInOutcome reachability timeout companion name value rule none
  /-- The value has another type, whatever the parameter is. -/
  | mistyped {keyword : Keyword}
      (kind : rule.kind = .builtIn keyword)
      (present : value ≠ .null)
      (unfit : ¬ keyword.subject.Fits value) :
      BuiltInOutcome reachability timeout companion name value rule
        (some (.about name rule "invalid_type"
          ((Fault.coercion keyword.subject value.typeName).describe name)))
  /-- The parameter does not meet the keyword's need. -/
  | misconfigured {keyword : Keyword} {fault : Fault}
      (kind : rule.kind = .builtIn keyword)
      (present : value ≠ .null)
      (fits : keyword.subject.Fits value)
      (refused : keyword.need.Refuses rule.kind rule.parameter fault) :
      BuiltInOutcome reachability timeout companion name value rule
        (some (.about name rule "invalid_rule" (fault.describe name)))
  | passed {keyword : Keyword}
      (kind : rule.kind = .builtIn keyword)
      (present : value ≠ .null)
      (fits : keyword.subject.Fits value)
      (met : keyword.need.Meets rule.parameter)
      (passes : keyword.Passes reachability timeout companion value rule.parameter) :
      BuiltInOutcome reachability timeout companion name value rule none
  | failed {keyword : Keyword}
      (kind : rule.kind = .builtIn keyword)
      (present : value ≠ .null)
      (fits : keyword.subject.Fits value)
      (met : keyword.need.Meets rule.parameter)
      (fails : ¬ keyword.Passes reachability timeout companion value rule.parameter)
      (compared : keyword = .confirmed → companion.value ≠ none) :
      BuiltInOutcome reachability timeout companion name value rule
        (some
          (.about name rule keyword.failureCode
            (Report.keywordMessage name keyword rule value)))
  /-- There is nothing to compare the value with. -/
  | unconfirmed
      (kind : rule.kind = .builtIn .confirmed)
      (present : value ≠ .null)
      (absent : companion.value = none) :
      BuiltInOutcome reachability timeout companion name value rule
        (some
          { field := name
            message := "The " ++ name ++ " field requires a confirmation field"
            code := "confirmation_missing"
            context := some (Value.ofEntries [("companion", .text companion.name)]) })

namespace BuiltInOutcome

variable {reachability : Reachability} {timeout : Duration} {companion : Companion}
  {name : String} {value : Value} {rule : Rule} {keyword : Keyword}

/-! ## Evaluation leads to the outcome -/

theorem error?_keyword
    (kind : rule.kind = .builtIn keyword)
    (context : RuleContext) :
    (Catalogue.builtIn reachability timeout).error? rule value context =
      (Predicate.ofKeyword reachability timeout keyword).error? rule value context := by
  rw [Catalogue.error?, kind, Catalogue.builtIn_get?_keyword]

/-- A value of the right type under a parameter that is no use to the keyword. -/
theorem error?_of_refuses
    {fault : Fault}
    (kind : rule.kind = .builtIn keyword)
    (present : value ≠ .null)
    (fits : keyword.subject.Fits value)
    (refused : keyword.need.Refuses rule.kind rule.parameter fault) :
    (Catalogue.builtIn reachability timeout).error? rule value ⟨name, companion⟩ =
      some (FieldError.ofFault name rule fault) := by
  rw [kind] at refused
  have follows := Predicate.ofKeyword_follows reachability timeout keyword
  rw [error?_keyword kind, error?_of_applies (Predicate.appliesTo_of_ne_null _ present),
    follows.refuses ⟨name, companion⟩ fits refused]

/-- A value of the right type under a parameter of use to the keyword. -/
theorem error?_of_decided
    (companion : Companion)
    (name : String)
    (kind : rule.kind = .builtIn keyword)
    (applies : (Predicate.ofKeyword reachability timeout keyword).AppliesTo value)
    (fits : keyword.subject.Fits value)
    (met : keyword.need.Meets rule.parameter) :
    ∃ verdict,
      (verdict = true ↔
        keyword.Passes reachability timeout companion value rule.parameter) ∧
      (Catalogue.builtIn reachability timeout).error? rule value ⟨name, companion⟩ =
        if verdict then none
        else some
          ((Predicate.ofKeyword reachability timeout keyword).failure rule value
            ⟨name, companion⟩) := by
  have follows := Predicate.ofKeyword_follows reachability timeout keyword
  obtain ⟨verdict, judged, agrees⟩ := follows.decides ⟨name, companion⟩ fits met
  refine ⟨verdict, agrees, ?_⟩
  rw [error?_keyword kind, error?_of_applies applies, judged]
  cases verdict <;> rfl

theorem error?_of_fails
    (kind : rule.kind = .builtIn keyword)
    (applies : (Predicate.ofKeyword reachability timeout keyword).AppliesTo value)
    (fits : keyword.subject.Fits value)
    (met : keyword.need.Meets rule.parameter)
    (fails : ¬ keyword.Passes reachability timeout companion value rule.parameter) :
    (Catalogue.builtIn reachability timeout).error? rule value ⟨name, companion⟩ =
      some
        ((Predicate.ofKeyword reachability timeout keyword).failure rule value
          ⟨name, companion⟩) := by
  obtain ⟨verdict, agrees, led⟩ :=
    error?_of_decided companion name kind applies fits met
  have failed : verdict = false := by
    rw [← Bool.not_eq_true, agrees]
    exact fails
  rw [led, failed]
  rfl

theorem appliesTo_null (tested : keyword = .required ∨ keyword = .accepted) :
    (Predicate.ofKeyword reachability timeout keyword).AppliesTo value := by
  intro _
  exact (Predicate.checksNull_ofKeyword reachability timeout keyword).2 tested

/-- Null under the two keywords that refuse it. -/
theorem error?_null
    (companion : Companion)
    (name : String)
    (kind : rule.kind = .builtIn keyword)
    (tested : keyword = .required ∨ keyword = .accepted) :
    (Catalogue.builtIn reachability timeout).error? rule .null ⟨name, companion⟩ =
      some (.about name rule keyword.failureCode
        (Report.keywordMessage name keyword rule .null)) := by
  have fits : keyword.subject.Fits .null := by
    rcases tested with rfl | rfl <;> exact .any .null
  have met : keyword.need.Meets rule.parameter := by
    rcases tested with rfl | rfl <;> exact .nothing rule.parameter
  have fails : ¬ keyword.Passes reachability timeout companion .null rule.parameter := by
    rcases tested with rfl | rfl <;> simp [Keyword.Passes]
  have uncompared : keyword = .confirmed → companion.value ≠ none := by
    rcases tested with rfl | rfl <;> simp
  rw [error?_of_fails kind (appliesTo_null tested) fits met fails,
    Predicate.failure_ofKeyword reachability timeout uncompared, FieldError.ruleFailed_eq_about kind]

/-- Whatever the relation says of a rule, evaluation does. -/
theorem error?_eq
    {outcome : Option FieldError}
    (given : BuiltInOutcome reachability timeout companion name value rule outcome) :
    (Catalogue.builtIn reachability timeout).error? rule value ⟨name, companion⟩ = outcome := by
  cases given with
  | unknown kind =>
      rw [Catalogue.error?, kind, Catalogue.builtIn_get?_other]
      rfl
  | nullMissing kind null =>
      have message : Report.keywordMessage name .required rule .null =
          "The " ++ name ++ " field is required" := by
        apply String.ext
        simp [Report.keywordMessage]
      rw [null, error?_null companion name kind (.inl rfl), message]
      rfl
  | nullUnaccepted kind null =>
      have message : Report.keywordMessage name .accepted rule .null =
          "The " ++ name ++ " field must be accepted" := by
        apply String.ext
        simp [Report.keywordMessage]
      rw [null, error?_null companion name kind (.inr rfl), message]
      rfl
  | @nullSkipped keyword kind null untested =>
      have skips : (Predicate.ofKeyword reachability timeout keyword).checksNull = false := by
        rw [← Bool.not_eq_true, Predicate.checksNull_ofKeyword, not_or]
        exact untested
      rw [error?_keyword kind, Predicate.error?, null, skips]
      rfl
  | @mistyped keyword kind present unfit =>
      have follows := Predicate.ofKeyword_follows reachability timeout keyword
      rw [← follows.expects] at unfit ⊢
      rw [error?_keyword kind, error?_of_applies (Predicate.appliesTo_of_ne_null _ present),
        Predicate.judge, Shape.demand_of_not_fits unfit]
      rfl
  | misconfigured kind present fits refused =>
      rw [error?_of_refuses kind present fits refused, FieldError.ofFault, refused.code_eq]
      rfl
  | passed kind present fits met passes =>
      obtain ⟨verdict, agrees, led⟩ := error?_of_decided companion name kind
        (Predicate.appliesTo_of_ne_null _ present) fits met
      rw [led, agrees.2 passes]
      rfl
  | failed kind present fits met fails compared =>
      rw [error?_of_fails kind (Predicate.appliesTo_of_ne_null _ present) fits met fails,
        Predicate.failure_ofKeyword reachability timeout compared, FieldError.ruleFailed_eq_about kind]
  | unconfirmed kind present absent =>
      have fails : ¬ Keyword.confirmed.Passes reachability timeout companion value
          rule.parameter := by
        simp [Keyword.Passes, absent]
      rw [error?_of_fails kind (Predicate.appliesTo_of_ne_null _ present) (.any value)
        (.nothing rule.parameter) fails]
      exact congrArg some (Predicate.failure_confirmed_of_absent absent rule value)

/-! ## There is an outcome -/

theorem exists_of_keyword
    (reachability : Reachability)
    (timeout : Duration)
    (companion : Companion)
    (name : String)
    (value : Value)
    (kind : rule.kind = .builtIn keyword) :
    ∃ outcome, BuiltInOutcome reachability timeout companion name value rule outcome := by
  by_cases null : value = .null
  · by_cases tested : keyword = .required ∨ keyword = .accepted
    · rcases tested with rfl | rfl
      · exact ⟨_, .nullMissing kind null⟩
      · exact ⟨_, .nullUnaccepted kind null⟩
    · exact ⟨_, .nullSkipped kind null (not_or.1 tested)⟩
  · by_cases fits : keyword.subject.Fits value
    · by_cases met : keyword.need.Meets rule.parameter
      · by_cases passes : keyword.Passes reachability timeout companion value rule.parameter
        · exact ⟨_, .passed kind null fits met passes⟩
        · by_cases unconfirmed : keyword = .confirmed ∧ companion.value = none
          · obtain ⟨rfl, absent⟩ := unconfirmed
            exact ⟨_, .unconfirmed kind null absent⟩
          · exact ⟨_, .failed kind null fits met passes (not_and.1 unconfirmed)⟩
      · obtain ⟨fault, refused⟩ := Need.exists_refuses_of_not_meets rule.kind met
        exact ⟨_, .misconfigured kind null fits refused⟩
    · exact ⟨_, .mistyped kind null fits⟩

theorem iff_error?_eq (outcome : Option FieldError) :
    BuiltInOutcome reachability timeout companion name value rule outcome ↔
      (Catalogue.builtIn reachability timeout).error? rule value ⟨name, companion⟩ =
        outcome := by
  constructor
  · exact error?_eq
  · rintro rfl
    cases kind : rule.kind with
    | other kindName =>
        have unknown : BuiltInOutcome reachability timeout companion name value rule _ :=
          .unknown kind
        rwa [unknown.error?_eq]
    | builtIn keyword =>
        obtain ⟨outcome, given⟩ :=
          exists_of_keyword reachability timeout companion name value kind
        rwa [given.error?_eq]

end BuiltInOutcome

/-- **The outcome of every rule on every value, with the built-in predicates only.**
A validator that was made without further predicates reports for every rule of every
field, in its place, the one outcome that the relation allows; on a field with a
single rule it reports that outcome and nothing else. -/
theorem Validator.validate_builtIn_outcomes
    (config : Config)
    (reachability : Reachability)
    (book : RuleBook) :
    let validator := Builder.assemble { config, reachability, predicates := [], rules := book }
    (∀ (source : FieldSource) (report : Report),
      validator.validate source = report ↔
        ∃ outcomes : List (Option FieldError),
          List.Forall₂
            (fun (demand : Field × Rule) outcome =>
              BuiltInOutcome reachability config.activeUrlTimeout
                (source.companion config.confirmationField)
                demand.1.name demand.1.value demand.2 outcome)
            source.demands outcomes ∧
          report.errors = outcomes.reduceOption) ∧
    (∀ (lookup : String → Option Value) (name : String) (value : Value) (rule : Rule)
        (outcome : Option FieldError),
      let source : FieldSource := ⟨[⟨name, value, .registered [rule]⟩], lookup⟩
      (validator.validate source).errors = outcome.toList ↔
        BuiltInOutcome reachability config.activeUrlTimeout
          (source.companion config.confirmationField) name value rule outcome) := by
  intro validator
  constructor
  · intro source report
    exact validator.validate_eq_iff_walk source
      (fun demand outcome => BuiltInOutcome.iff_error?_eq outcome) report
  · intro lookup name value rule outcome source
    have reported : (validator.validate source).errors =
        ((Catalogue.builtIn reachability config.activeUrlTimeout).error? rule value
          ⟨name, source.companion config.confirmationField⟩).toList := by
      rw [validator.validate_errors]
      exact List.flatMap_singleton _ _ |>.trans (Catalogue.errorsOf_singleton ..)
    rw [reported, BuiltInOutcome.iff_error?_eq]
    constructor
    · intro same
      rw [← @Option.head?_toList _ outcome, ← same, Option.head?_toList]
    · rintro rfl
      rfl

end Fieldwise
