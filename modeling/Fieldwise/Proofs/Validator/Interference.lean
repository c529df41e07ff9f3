import Fieldwise.Proofs.BuiltIn.Outcome
import Fieldwise.Proofs.Value.Equality

/-!
Contract: what the errors of one field can depend on.

Owns: validations with the built-in predicates, what a field contributes to their
report, and the comparison of two validations: which of their parts a contribution
sees, and how far a check of addresses reaches.

Does **not** own: the outcome of one rule (`Fieldwise.Proofs.BuiltIn.Outcome`).

Two validations are compared rule by rule. The outcome relation of the first carries
over to the second unless the rule asks for the companion or for an address, and those
two are looked at on their own.
-/

set_option autoImplicit false

namespace Fieldwise

/-! ## Companions that agree -/

/-- Companions of one name, both absent or both there with equal values. -/
inductive Companion.Agrees : Companion → Companion → Prop where
  | absent (name : String) : Agrees ⟨name, none⟩ ⟨name, none⟩
  | held (name : String) {left right : Value} (equal : left.same right = true) :
      Agrees ⟨name, some left⟩ ⟨name, some right⟩

theorem Companion.Agrees.symm
    {first second : Companion}
    (agrees : first.Agrees second) :
    second.Agrees first := by
  cases agrees with
  | absent name => exact .absent name
  | held name equal =>
      rw [Value.same_comm] at equal
      exact .held name equal

/-- The value that a source holds under a name, null where it holds none. -/
def FieldSource.held (source : FieldSource) (name : String) : Value :=
  Value.ofOption (source.lookup name)

theorem FieldSource.companion_eq (source : FieldSource) (name : String) :
    source.companion name =
      ⟨name, if (source.held name).isNull then none else some (source.held name)⟩ := by
  unfold companion held
  cases source.lookup name with
  | none => rfl
  | some value => cases null : value.isNull <;> simp [Value.ofOption, null]

/-- What a companion is depends on the value held under its name only, and on that only
up to equality. -/
theorem FieldSource.companion_agrees
    {first second : FieldSource} {name : String}
    (equal : (first.held name).same (second.held name) = true) :
    (first.companion name).Agrees (second.companion name) := by
  have null : (first.held name).isNull = (second.held name).isNull := by
    rw [Bool.eq_iff_iff, Value.isNull_eq_true_iff, Value.isNull_eq_true_iff]
    exact Value.isExact_null.eq_iff_of_same equal
  rw [companion_eq, companion_eq, null]
  split
  · exact .absent name
  · exact .held name equal

/-! ## The outcome of a rule in two validations -/

section Transfer

variable [Libraries] {reachability elsewhere : Reachability} {timeout later : Duration}
  {companion counterpart : Companion} {name : String} {value other : Value} {rule : Rule}
  {keyword : Keyword} {parameter : Option Parameter}

/-- Equal values agree with companions that agree, or with neither. -/
theorem Keyword.passes_confirmed_of_agrees
    (equal : value.same other = true)
    (agrees : companion.Agrees counterpart)
    (passes : Keyword.confirmed.Passes reachability timeout companion value parameter) :
    Keyword.confirmed.Passes elsewhere later counterpart other parameter := by
  obtain ⟨held, present, confirms⟩ := passes
  cases agrees with
  | absent name => cases present
  | @held name left right matching =>
      obtain rfl := Option.some.inj present
      rw [Value.same_comm] at matching
      have back := Value.same_trans right left value matching confirms
      exact ⟨right, rfl, Value.same_trans right value other back equal⟩

theorem Keyword.passes_iff_of_same
    (kind : rule.kind = .builtIn keyword)
    (equal : value.same other = true)
    (fits : keyword.subject.Fits value)
    (unreached : rule.kind ≠ .builtIn .activeUrl)
    (agrees : rule.kind = .builtIn .confirmed → companion.Agrees counterpart) :
    keyword.Passes reachability timeout companion value parameter ↔
      keyword.Passes elsewhere later counterpart other parameter := by
  by_cases typed : keyword.subject = .any
  · cases keyword with
    | required =>
        simp only [Keyword.Passes, ne_eq,
          Value.isExact_null.eq_iff_of_same equal,
          (Value.isExact_text "").eq_iff_of_same equal,
          Value.isExact_emptyList.eq_iff_of_same equal,
          Value.isExact_emptyObject.eq_iff_of_same equal]
    | accepted =>
        simp only [Keyword.Passes,
          (Value.isExact_text _).eq_iff_of_same equal,
          (Value.isExact_integer 1).eq_iff_of_same equal,
          (Value.isExact_boolean true).eq_iff_of_same equal]
    | confirmed =>
        constructor
        · exact Keyword.passes_confirmed_of_agrees equal (agrees kind)
        · rw [Value.same_comm] at equal
          exact Keyword.passes_confirmed_of_agrees equal (agrees kind).symm
    | _ => cases typed
  · obtain rfl := Value.eq_of_same_of_fits equal typed fits
    cases keyword with
    | activeUrl => exact absurd kind unreached
    | confirmed => exact absurd rfl typed
    | _ => exact Iff.rfl

omit [Libraries] in
/-- A message shows a value of the type that its rule asks for, or no value. -/
theorem Report.keywordMessage_of_same
    (equal : value.same other = true)
    (fits : keyword.subject.Fits value) :
    Report.keywordMessage name keyword rule value =
      Report.keywordMessage name keyword rule other := by
  by_cases typed : keyword.subject = .any
  · cases keyword with
    | required | accepted | confirmed => rfl
    | _ => cases typed
  · rw [Value.eq_of_same_of_fits equal typed fits]

/-- A rule that asks for no address leads to the same error wherever equal values meet
companions that agree; and the companion matters to rules of one kind only. -/
theorem BuiltInOutcome.transfer
    {outcome : Option FieldError}
    (given : BuiltInOutcome reachability timeout companion name value rule outcome)
    (equal : value.same other = true)
    (unreached : rule.kind ≠ .builtIn .activeUrl)
    (agrees : rule.kind = .builtIn .confirmed → companion.Agrees counterpart) :
    BuiltInOutcome elsewhere later counterpart name other rule outcome := by
  have null : value = .null ↔ other = .null := Value.isExact_null.eq_iff_of_same equal
  cases given with
  | unknown kind => exact .unknown kind
  | nullMissing kind isNull => exact .nullMissing kind (null.1 isNull)
  | nullUnaccepted kind isNull => exact .nullUnaccepted kind (null.1 isNull)
  | nullSkipped kind isNull untested => exact .nullSkipped kind (null.1 isNull) untested
  | mistyped kind present unfit =>
      rw [Value.typeName_of_same equal]
      refine .mistyped kind (mt null.2 present) fun fits => unfit ?_
      rw [Value.same_comm] at equal
      exact Value.fits_of_same equal fits
  | misconfigured kind present fits refused =>
      exact .misconfigured kind (mt null.2 present) (Value.fits_of_same equal fits) refused
  | passed kind present fits met passes =>
      exact .passed kind (mt null.2 present) (Value.fits_of_same equal fits) met
        ((Keyword.passes_iff_of_same kind equal fits unreached agrees).1 passes)
  | failed kind present fits met fails compared =>
      rw [Report.keywordMessage_of_same equal fits]
      refine .failed kind (mt null.2 present) (Value.fits_of_same equal fits) met
        (mt (Keyword.passes_iff_of_same kind equal fits unreached agrees).2 fails) ?_
      rintro rfl
      have there := compared rfl
      cases agrees kind with
      | absent name => exact absurd rfl there
      | held name equal => simp
  | unconfirmed kind present absent =>
      cases agrees kind with
      | absent name => exact .unconfirmed kind (mt null.2 present) rfl
      | held name equal => cases absent

end Transfer

namespace Catalogue

variable [Libraries] {reachability elsewhere : Reachability} {timeout later : Duration}
  {companion counterpart : Companion} {name : String} {value other : Value} {rule : Rule}

theorem error?_eq_of_agrees
    (equal : value.same other = true)
    (unreached : rule.kind ≠ .builtIn .activeUrl)
    (agrees : rule.kind = .builtIn .confirmed → companion.Agrees counterpart) :
    (builtIn reachability timeout).error? rule value ⟨name, companion⟩ =
      (builtIn elsewhere later).error? rule other ⟨name, counterpart⟩ := by
  have given : BuiltInOutcome reachability timeout companion name value rule
      ((builtIn reachability timeout).error? rule value ⟨name, companion⟩) :=
    (BuiltInOutcome.iff_error?_eq _).2 rfl
  exact (given.transfer equal unreached agrees).error?_eq.symm

/-- A rule that asks for an address leads to an error of its own code, or to one that
does not depend on the answer. -/
theorem error?_activeUrl (kind : rule.kind = .builtIn .activeUrl) (context : RuleContext) :
    (builtIn reachability timeout).error? rule value context =
      match value with
      | .null => none
      | .text content =>
          if Libraries.timer.confirms timeout (reachability content) then none
          else some (FieldError.ruleFailed context.field rule (.text content))
      | _ =>
          some (FieldError.ofFault context.field rule (.coercion .text value.typeName)) := by
  rw [BuiltInOutcome.error?_keyword kind]
  cases value with
  | text content =>
      have judged : (Predicate.ofKeyword reachability timeout .activeUrl).judge (.text content)
          rule.parameter context =
            .ok (Libraries.timer.confirms timeout (reachability content)) := rfl
      rw [Predicate.error?, judged]
      dsimp only
      cases Libraries.timer.confirms timeout (reachability content) <;> rfl
  | _ => rfl

end Catalogue

/-! ## Validations -/

/-- A validation with the built-in predicates only: the settings and the rules of the
validator, the check behind `active_url`, and the record. -/
structure Validation where
  config : Config
  reachability : Reachability
  book : RuleBook
  source : FieldSource

namespace Validation

section Comparison

variable [Libraries]

def validator (validation : Validation) : Validator :=
  Validator.Builder.assemble
    { config := validation.config
      reachability := validation.reachability
      predicates := []
      rules := validation.book }

def report (validation : Validation) : Report :=
  validation.validator.validate validation.source

/-- The companion that the rules of a validation meet. -/
def companion (validation : Validation) : Companion :=
  validation.source.companion validation.config.confirmationField

/-- The value that confirms others, null where there is none. -/
def confirmation (validation : Validation) : Value :=
  validation.source.held validation.config.confirmationField

/-- What a field of some name, value and rules contributes to a report: the report on
that field alone. -/
def contribution
    (validation : Validation)
    (name : String)
    (value : Value)
    (rules : List Rule) :
    List FieldError :=
  let alone : Field := { name, value, rules := .registered rules }
  (validation.validator.validate ⟨[alone], validation.source.lookup⟩).errors

theorem contribution_eq_errorsOf
    (validation : Validation)
    (name : String)
    (value : Value)
    (rules : List Rule) :
    validation.contribution name value rules =
      (Catalogue.builtIn validation.reachability validation.config.activeUrlTimeout).errorsOf
        validation.companion name value rules := by
  rw [contribution, Validator.validate_errors]
  exact List.flatMap_singleton _ _

theorem report_errors (validation : Validation) :
    validation.report.errors =
      validation.source.fields.flatMap fun field =>
        validation.contribution field.name field.value field.rules.rules := by
  simp only [contribution_eq_errorsOf]
  exact Validator.validate_errors _ _

theorem contribution_singleton
    (validation : Validation)
    (name : String)
    (value : Value)
    (rule : Rule) :
    validation.contribution name value [rule] =
      ((Catalogue.builtIn validation.reachability validation.config.activeUrlTimeout).error?
        rule value ⟨name, validation.companion⟩).toList := by
  rw [contribution_eq_errorsOf, Catalogue.errorsOf_singleton]

theorem contribution_flatMap
    (validation : Validation)
    (name : String)
    (value : Value)
    (rules : List Rule) :
    validation.contribution name value rules =
      rules.flatMap fun rule => validation.contribution name value [rule] := by
  simp only [contribution_singleton]
  rw [contribution_eq_errorsOf, Catalogue.errorsOf, List.filterMap_eq_flatMap_toList]

theorem contribution_eq
    {first second : Validation} {value other : Value} {rules : List Rule}
    (equal : value.same other = true)
    (unreached : ∀ rule ∈ rules, rule.kind ≠ .builtIn .activeUrl)
    (agrees : ∀ rule ∈ rules,
      rule.kind = .builtIn .confirmed → first.companion.Agrees second.companion)
    (name : String) :
    first.contribution name value rules = second.contribution name other rules := by
  rw [contribution_eq_errorsOf, contribution_eq_errorsOf]
  apply List.filterMap_congr
  intro rule member
  exact Catalogue.error?_eq_of_agrees equal (unreached rule member) (agrees rule member)

omit [Libraries] in
theorem companion_agrees
    {first second : Validation}
    (named : first.config.confirmationField = second.config.confirmationField)
    (equal : first.confirmation.same second.confirmation = true) :
    first.companion.Agrees second.companion := by
  unfold confirmation at equal
  unfold companion
  rw [named] at equal ⊢
  exact FieldSource.companion_agrees equal

/-! ## The check of addresses -/

/-- The errors that do not say that an address was found inactive. -/
def withoutActiveUrl (errors : List FieldError) : List FieldError :=
  errors.filter fun error => error.code ≠ "active_url"

theorem withoutActiveUrl_contribution_singleton
    {first second : Validation}
    (agrees : first.companion.Agrees second.companion)
    (name : String)
    (value : Value)
    (rule : Rule) :
    withoutActiveUrl (first.contribution name value [rule]) =
      withoutActiveUrl (second.contribution name value [rule]) := by
  by_cases kind : rule.kind = .builtIn .activeUrl
  · rw [contribution_singleton, contribution_singleton, Catalogue.error?_activeUrl kind,
      Catalogue.error?_activeUrl kind]
    cases value with
    | text content =>
        -- Whatever the answer, what is left of this rule is nothing.
        have dropped (check : Reachability) (timeout : Duration) :
            withoutActiveUrl (if Libraries.timer.confirms timeout (check content) then none
              else some (FieldError.ruleFailed name rule (.text content))).toList = [] := by
          split <;> simp [withoutActiveUrl, FieldError.ruleFailed, kind, Kind.name, Keyword.name]
        exact (dropped _ _).trans (dropped _ _).symm
    | _ => rfl
  · rw [contribution_eq (value.same_self) (by simpa using kind) (fun _ _ _ => agrees)]

theorem withoutActiveUrl_contribution
    {first second : Validation}
    (agrees : first.companion.Agrees second.companion)
    (name : String)
    (value : Value)
    (rules : List Rule) :
    withoutActiveUrl (first.contribution name value rules) =
      withoutActiveUrl (second.contribution name value rules) := by
  rw [contribution_flatMap first, contribution_flatMap second, withoutActiveUrl,
    withoutActiveUrl, List.filter_flatMap, List.filter_flatMap]
  apply List.flatMap_congr
  intro rule _
  exact withoutActiveUrl_contribution_singleton agrees name value rule

theorem withoutActiveUrl_report
    {first second : Validation}
    (source : first.source = second.source)
    (named : first.config.confirmationField = second.config.confirmationField) :
    withoutActiveUrl first.report.errors = withoutActiveUrl second.report.errors := by
  have agrees : first.companion.Agrees second.companion := by
    apply companion_agrees named
    rw [confirmation, confirmation, source, named]
    exact Value.same_self _
  rw [report_errors, report_errors, source, withoutActiveUrl, withoutActiveUrl,
    List.filter_flatMap, List.filter_flatMap]
  apply List.flatMap_congr
  intro field _
  exact withoutActiveUrl_contribution agrees field.name field.value field.rules.rules

theorem contribution_activeUrl
    (validation : Validation)
    (name content : String)
    {rule : Rule}
    (kind : rule.kind = .builtIn .activeUrl) :
    validation.contribution name (.text content) [rule] =
      if Libraries.timer.confirms validation.config.activeUrlTimeout
          (validation.reachability content) then []
      else [.about name rule "active_url"
        ("The " ++ name ++ " field " ++ "must be an active URL")] := by
  rw [contribution_singleton, Catalogue.error?_activeUrl kind]
  dsimp only
  rw [FieldError.ruleFailed_eq_about kind]
  split <;> rfl

/-- **The errors of a field depend on nothing but that field, and on the companion and
the check of addresses where a rule asks for them.** Compare two validations with the
built-in predicates, of any sources, on any settings, with any checks. A report consists
of the contributions of the fields, and these of the contributions of their rules. A
field of one name, of equal values and of the same rules contributes the same errors to
both, if no rule is `confirmed` or `active_url`; and also with `confirmed` rules, if the
companion has one name and equal values, where a missing companion is a null one. With
one source and one companion name the reports agree in all errors but those of
`active_url`; and an `active_url` rule on a text is an error exactly if the check does
not confirm that very text within the timeout. -/
theorem noninterference (first second : Validation) :
    (first.report.errors =
      first.source.fields.flatMap fun field =>
        first.contribution field.name field.value field.rules.rules) ∧
    (∀ (name : String) (value : Value) (rules : List Rule),
      first.contribution name value rules =
        rules.flatMap fun rule => first.contribution name value [rule]) ∧
    (∀ (name : String) (value other : Value) (rules : List Rule),
      value.same other = true →
      (∀ rule ∈ rules, rule.kind ≠ .builtIn .confirmed ∧ rule.kind ≠ .builtIn .activeUrl) →
        first.contribution name value rules = second.contribution name other rules) ∧
    (∀ (name : String) (value other : Value) (rules : List Rule),
      value.same other = true →
      (∀ rule ∈ rules, rule.kind ≠ .builtIn .activeUrl) →
      first.config.confirmationField = second.config.confirmationField →
      first.confirmation.same second.confirmation = true →
        first.contribution name value rules = second.contribution name other rules) ∧
    (first.source = second.source →
      first.config.confirmationField = second.config.confirmationField →
        withoutActiveUrl first.report.errors = withoutActiveUrl second.report.errors) ∧
    (∀ (name content : String) (rule : Rule),
      rule.kind = .builtIn .activeUrl →
        let probe := first.reachability content
        let timeout := first.config.activeUrlTimeout
        let failure : FieldError :=
          .about name rule "active_url" ("The " ++ name ++ " field " ++ "must be an active URL")
        (first.contribution name (.text content) [rule] = [failure] ↔
          probe.reachable = false ∨ timeout.totalNanos < probe.delay.totalNanos) ∧
        (first.contribution name (.text content) [rule] = [] ↔
          probe.reachable = true ∧ probe.delay.totalNanos ≤ timeout.totalNanos)) := by
  refine ⟨first.report_errors, first.contribution_flatMap, ?_, ?_, withoutActiveUrl_report, ?_⟩
  · intro name value other rules equal isolated
    refine contribution_eq equal (fun rule member => (isolated rule member).2) ?_ name
    intro rule member kind
    exact absurd kind (isolated rule member).1
  · intro name value other rules equal unreached named confirmed
    exact contribution_eq equal unreached
      (fun _ _ _ => companion_agrees named confirmed) name
  · intro name content rule kind probe timeout failure
    rw [contribution_activeUrl first name content kind]
    rw [← Bool.not_eq_true, ← Nat.not_le, ← not_and_or, ←
      Libraries.timer.confirms_iff]
    by_cases confirmed : Libraries.timer.confirms timeout probe = true
    · rw [if_pos confirmed]
      simp [confirmed]
    · rw [if_neg confirmed]
      simp [confirmed, failure]

end Comparison

def passwordRules : List Rule :=
  [⟨.builtIn .required, none⟩, ⟨.builtIn .confirmed, none⟩]

/-- A record of a password alone, with no companion. -/
def unconfirmedSignup : Validation :=
  { config := Config.default
    reachability := Reachability.offline
    book := Table.empty
    source :=
      { fields := [⟨"Password", .text "secret", .registered passwordRules⟩]
        lookup := fun _ => none } }

/-- A record of more fields, on other settings, whose companion is null. -/
def nullConfirmedSignup : Validation :=
  { config := { Config.default with activeUrlTimeout := Duration.ofMillis 1 }
    reachability := Reachability.fixed true
    book := Table.empty
    source :=
      { fields :=
          [⟨"Homepage", .text "https://example.com", .declared "active_url"⟩,
            ⟨"Password", .text "secret", .registered passwordRules⟩]
        lookup := fun _ => some .null } }

/-- A missing companion and a null one lead to the same error. -/
theorem noninterference_absent_and_null :
    unconfirmedSignup.confirmation.same nullConfirmedSignup.confirmation = true ∧
      unconfirmedSignup.contribution "Password" (.text "secret") passwordRules =
        nullConfirmedSignup.contribution "Password" (.text "secret") passwordRules ∧
      (unconfirmedSignup.contribution "Password" (.text "secret") passwordRules).map
        FieldError.code = ["confirmation_missing"] := by
  have equal : unconfirmedSignup.confirmation.same nullConfirmedSignup.confirmation = true := rfl
  refine ⟨equal, ?_, by decide⟩
  obtain ⟨-, -, -, confirmed, -, -⟩ := noninterference unconfirmedSignup nullConfirmedSignup
  exact confirmed "Password" _ _ passwordRules (Value.same_self _) (by decide) rfl equal

end Validation

end Fieldwise
